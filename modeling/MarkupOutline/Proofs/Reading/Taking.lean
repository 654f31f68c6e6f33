import MarkupOutline.Proofs.Reading.Orderly
import MarkupOutline.Proofs.Reading.Reread

/-!
# Taking up tokens in place

In an orderly state a token is taken up by the rules of the mode, and they are done with it at once.
Text is the exception: directly in a table it waits for its place (`IsOrderly.accept_text_of_part`),
and the next token finds the state with the text in its place.
-/

namespace MarkupOutline.Html.Construction

variable {c c' : Construction} {t : Token} {s : List Char}

/-! ## The rules of the mode -/

/-- Ordinary elements are no foreign content. -/
theorem isForeign_eq (hplain : c.stack.IsPlain) (t : Token) : c.isForeign t = false := by
  unfold isForeign
  cases hcurrent : c.current? with
  | none => rfl
  | some f =>
    have hf := hplain f (List.mem_of_mem_head? hcurrent)
    dsimp only
    rw [hf.space_eq]
    rfl

/-- A token is taken up when the rules of the mode are done with it. -/
theorem takeWithin_eq (hplain : c.stack.IsPlain) (hstep : c.modeStep t = .done c') (rounds : Nat) :
    takeWithin (rounds + 1) t c = c' := by
  rw [takeWithin, isForeign_eq hplain, if_neg Bool.false_ne_true, hstep]

/-- A token that is left over is taken up by the rules that apply then. -/
theorem takeWithin_again {c'' : Construction} (hplain : c.stack.IsPlain)
    (hagain : c.modeStep t = .again c'') (hplain' : c''.stack.IsPlain)
    (hstep : c''.modeStep t = .done c') (rounds : Nat) :
    takeWithin (rounds + 2) t c = c' := by
  rw [takeWithin, isForeign_eq hplain, if_neg Bool.false_ne_true, hagain]
  exact takeWithin_eq hplain' hstep rounds

/-- A token other than text is taken up as it is. -/
theorem accept_eq_take (ht : ∀ s, t ≠ .text s) :
    c.accept t = { c with dropNewline := false }.take t := by
  have htrim : trimNewline c.dropNewline t = t := by
    unfold trimNewline
    split
    · next rest => exact absurd rfl (ht _)
    · rfl
  have hpieces : c.pieces t = [t] := by
    unfold pieces
    split
    · next s => exact absurd rfl (ht s)
    · rfl
  rw [accept, htrim, hpieces, List.foldl_cons, List.foldl_nil]
  split
  · exact absurd rfl (ht [])
  · rfl

/-! ## Text -/

/-- What is left of a text without the line feed in front comes from the text. -/
theorem mem_of_mem_afterFeed {drop : Bool} {ch : Char} (h : ch ∈ afterFeed drop s) : ch ∈ s := by
  unfold afterFeed at h
  split at h
  · split at h
    · exact List.mem_cons_of_mem _ h
    · exact h
  · exact h

/-- A line feed that is to be left out is taken off a text. -/
theorem trimNewline_text (drop : Bool) (s : List Char) :
    trimNewline drop (.text s) = .text (afterFeed drop s) := by
  cases s with
  | nil => rfl
  | cons ch rest =>
    unfold afterFeed trimNewline
    split
    · next heq =>
      cases heq
      split <;> rfl
    · next hne =>
      split
      · next heq => exact absurd (congrArg Token.text heq) (hne _)
      · rfl

/-- A text is taken up in one piece, provided that it is white space in a group of columns. -/
theorem accept_text_eq (hnil : afterFeed c.dropNewline s ≠ [])
    (hspace : c.mode = .columnGroup → ∀ ch ∈ afterFeed c.dropNewline s, isTableSpace ch = true) :
    c.accept (.text s) =
      { c with dropNewline := false }.take (.text (afterFeed c.dropNewline s)) := by
  rw [accept, trimNewline_text, pieces]
  by_cases hmode : c.mode = .columnGroup
  · have hspan : (afterFeed c.dropNewline s).span isTableSpace =
        (afterFeed c.dropNewline s, []) := by
      rw [List.span_eq_takeWhile_dropWhile, List.takeWhile_eq_self_iff.2 (hspace hmode),
        List.dropWhile_eq_nil_iff.2 (hspace hmode)]
    rw [if_pos hmode, hspan]
    dsimp only
    rw [List.foldl_cons, List.foldl_cons, List.foldl_nil]
    -- Nothing is left for the second piece.
    dsimp only
    split
    · next heq => exact absurd (Token.text.inj heq) hnil
    · rfl
  · rw [if_neg hmode, List.foldl_cons, List.foldl_nil]
    split
    · next heq => exact absurd (Token.text.inj heq) hnil
    · rfl

/-- Nothing is taken up when only a line feed is left out. -/
theorem accept_text_nil (hnil : afterFeed c.dropNewline s = []) :
    c.accept (.text s) = { c with dropNewline := false } := by
  rw [accept, trimNewline_text, hnil, pieces]
  split <;> rfl

/-! ## Text in place -/

/-- Text without null characters is taken up whole. -/
theorem filter_eq_self_of_staysIn {names : List String}
    (hs : ∀ ch ∈ s, staysIn names ch = true) :
    s.filter (fun ch => decide (ch.toNat ≠ 0)) = s := by
  rw [List.filter_eq_self]
  intro ch hch
  have hstays := hs ch hch
  rw [staysIn, Bool.and_eq_true, isSteady, Bool.and_eq_true] at hstays
  exact hstays.1.1

/-- In the parts of a table text is white space. -/
theorem isTableSpace_of_staysIn {names : List String} (hs : ∀ ch ∈ s, staysIn names ch = true)
    (hground : (ground names).holdsText = false) : ∀ ch ∈ s, isTableSpace ch = true := by
  intro ch hch
  have hstays := hs ch hch
  rw [staysIn, hground, Bool.and_eq_true, Bool.false_or] at hstays
  exact hstays.2

namespace IsOrderly

/-- A text that stays in its place is taken up in one piece. -/
theorem accept_text_eq_take (h : c.IsOrderly) (hs : ∀ ch ∈ s, staysIn c.names ch = true)
    (hnil : afterFeed c.dropNewline s ≠ []) :
    c.accept (.text s) =
      { c with dropNewline := false }.take (.text (afterFeed c.dropNewline s)) := by
  refine accept_text_eq hnil fun hmode ch hch => ?_
  have hground : (ground c.names).holdsText = false := by
    have hmem := h.mode_mem
    rw [hmode] at hmem
    revert hmem
    cases ground c.names <;> decide
  exact isTableSpace_of_staysIn hs hground ch (mem_of_mem_afterFeed hch)

/-- Where text does not wait, it is inserted. -/
theorem modeStep_text (h : c.IsOrderly) (hpart : delaysText (ground c.names) = false)
    (hs : ∀ ch ∈ s, staysIn c.names ch = true) :
    c.modeStep (.text s) = .done (c.insertText s) := by
  have hmode := h.mode_mem
  have hfilter := filter_eq_self_of_staysIn hs
  unfold modeStep
  cases hground : ground c.names with
  | flow =>
    have hbody : c.bodyText s = c.insertText s := by
      rw [bodyText, hfilter, h.reconstruct_eq]
      split
      · next hempty => rw [insertText, if_pos hempty]
      · rfl
    rw [hground] at hmode
    simp only [modesIn, List.mem_cons, List.not_mem_nil, or_false] at hmode
    rcases hmode with hmode | hmode | hmode <;>
    · rw [hmode, ← hbody]
      rfl
  | options =>
    rw [hground] at hmode
    simp only [modesIn, List.mem_cons, List.not_mem_nil, or_false] at hmode
    rcases hmode with hmode | hmode <;>
    · rw [hmode]
      exact congrArg (fun s => Step.done (c.insertText s)) hfilter
  | columns =>
    have hspace := isTableSpace_of_staysIn hs (by rw [hground]; rfl)
    rw [hground] at hmode
    rw [List.mem_singleton.1 hmode]
    dsimp only
    rw [columnToken, if_pos (List.all_eq_true.2 hspace)]
  | table | rows | row =>
    rw [hground] at hpart
    cases hpart

/-- Directly in a table text waits. -/
theorem modeStep_text_of_part (h : c.IsOrderly) (hpart : delaysText (ground c.names) = true) :
    c.modeStep (.text s) =
      .again { c with mode := .tableText, returnMode := c.mode, pending := [] } := by
  have hmode := h.mode_mem
  have htable : c.currentIs Frame.isTablePart = true := by
    have hnames : ∀ g : Ground, delaysText g = true →
        ∀ name ∈ holders g, name ∈ ["table", "tbody", "tfoot", "thead", "tr"] := by
      intro g
      cases g <;> decide
    obtain ⟨f, below, hstack, hholds⟩ := h.exists_holder fun hflow => by
      rw [hflow] at hpart
      cases hpart
    refine (h.currentIs_eq ["table", "tbody", "tfoot", "thead", "tr"]).trans ?_
    rw [names_eq hstack, List.head?_cons, Option.any_some, List.contains_iff_mem]
    exact hnames _ hpart f.name hholds
  have htoken : c.tableToken (.text s) =
      .again { c with mode := .tableText, returnMode := c.mode, pending := [] } := by
    rw [tableToken, htable, if_pos rfl]
  rw [← htoken]
  unfold modeStep
  cases hground : ground c.names with
  | table =>
    rw [hground] at hmode
    rw [List.mem_singleton.1 hmode]
  | rows | row =>
    rw [hground] at hmode
    rw [List.mem_singleton.1 hmode]
    rfl
  | flow | columns | options =>
    rw [hground] at hpart
    cases hpart

/-- Where text does not wait, it is inserted without the line feed that is to be left out. -/
theorem accept_text (h : c.IsOrderly) (hpart : delaysText (ground c.names) = false)
    (hs : ∀ ch ∈ s, staysIn c.names ch = true) :
    c.accept (.text s) =
      { c with dropNewline := false }.insertText (afterFeed c.dropNewline s) := by
  by_cases hnil : afterFeed c.dropNewline s = []
  · rw [accept_text_nil hnil, hnil]
    rfl
  · have hkeep := h.congr c.returnMode c.pending false
    rw [h.accept_text_eq_take hs hnil]
    exact takeWithin_eq hkeep.plain
      (hkeep.modeStep_text hpart fun ch hch => hs ch (mem_of_mem_afterFeed hch)) _

/-- Text directly in a table waits for its place. -/
theorem accept_text_of_part (h : c.IsOrderly) (hpart : delaysText (ground c.names) = true)
    (hs : ∀ ch ∈ s, staysIn c.names ch = true) (hnil : afterFeed c.dropNewline s ≠ []) :
    c.accept (.text s) =
      { c with
        dropNewline := false
        mode := .tableText
        returnMode := c.mode
        pending := afterFeed c.dropNewline s } := by
  have hkeep := h.congr c.returnMode c.pending false
  have hstays : ∀ ch ∈ afterFeed c.dropNewline s, staysIn c.names ch = true :=
    fun ch hch => hs ch (mem_of_mem_afterFeed hch)
  rw [h.accept_text_eq_take hs hnil]
  refine takeWithin_again hkeep.plain (hkeep.modeStep_text_of_part hpart) hkeep.plain ?_ _
  unfold modeStep
  dsimp only
  rw [tableTextToken, filter_eq_self_of_staysIn hstays]
  rfl

end IsOrderly

end MarkupOutline.Html.Construction
