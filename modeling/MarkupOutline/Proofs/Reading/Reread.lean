import MarkupOutline.Proofs.Reading.Attributes
import MarkupOutline.Proofs.Render.Payload
import MarkupOutline.Proofs.Text.Unescaping
import MarkupOutline.Tailed.Conversion

/-!
# Trees that are read back

When an outline is read again, the line breaks and the indentation in front of a tag or a comment
become part of the text there. `Node.reread` is the tree that results. Where text is trimmed, the
next outline drops what has been added. Where text is kept as it stands it does not, so a text grows
if a tag or a comment behind it begins a new line; and the line feed that preformatted text or a
text area begins with is lost (`writtenText_afterFeed_iff`). A tree without such texts, and without
references in the values of its attributes, which are not escaped, is settled.
-/

namespace MarkupOutline

open Text Html

/-! ## What is read back -/

/-- A text without the line feed that it begins with, if that is to be left out. -/
def afterFeed (drop : Bool) : List Char → List Char
  | '\n' :: rest => if drop then rest else '\n' :: rest
  | s => s

/-- Whether a line feed right behind the open tag of an element is left out. -/
def dropsFeed (tag : String) : Bool := tag = preTag || tag = "textarea"

mutual

/-- A node as it is read back from its outline. -/
def Node.reread (o : Options) (p : Place String) : Node → Node
  | .text value => .text value
  | .comment data => .comment (String.ofList (Layout.payload p.indent data.toList))
  | .element tag attributes children =>
    let hasChildren := !children.isEmpty
    .element tag (attributes.map rereadAttribute)
      (if Layout.closesItself o (.ofName tag) hasChildren then []
      else rereads o (p.within tag) (dropsFeed tag) [] (contentGap o p tag hasChildren) children)

/-- Nodes side by side as they are read back from their outlines, with text in front of them that
has been written before and a gap behind them. -/
def rereads (o : Options) (p : Place String) (drop : Bool) (front gap : List Char) :
    List Node → List Node
  | [] => textNodes (String.ofList (afterFeed drop (front ++ gap)))
  | .text value :: more =>
    rereads o p drop (front ++ Layout.writtenText o p value.toList) gap more
  | node :: more =>
    textNodes (String.ofList (afterFeed drop (front ++ node.lead p))) ++
      node.reread o p :: rereads o p false [] gap more

end

/-! ## What stays the same -/

/-- Whether a text in front of some nodes is written in the same way once it has been read back. -/
def Place.settles (o : Options) (p : Place String) (drop : Bool) (value : List Char)
    (next : List Node) : Bool :=
  allBlank value || !p.keepsText o ||
    (!(drop && value.head? == some '\n') && next.head?.all fun node => (node.lead p).isEmpty)

mutual

/-- Whether every text and every attribute value in a tree is written in the same way once it has
been read back, and no element loses all its content on the way that then closes itself. -/
def Node.isSettled (o : Options) (p : Place String) : Node → Bool
  | .text _ => true
  | .comment _ => true
  | .element tag attributes children =>
    let inner := p.within tag
    decide (attributes.map rereadAttribute = attributes) &&
      !(Layout.closesItself o (.ofName tag) false && inner.keepsText o && !children.isEmpty &&
        children.all Node.isBlankText) &&
      areSettled o inner (dropsFeed tag) children

/-- Whether trees side by side are settled. -/
def areSettled (o : Options) (p : Place String) (drop : Bool) : List Node → Bool
  | [] => true
  | .text value :: more => p.settles o drop value.toList more && areSettled o p drop more
  | node :: more => node.isSettled o p && areSettled o p false more

end

/-! ## Nested places -/

/-- Places inside of a fragment: the count of preformatted elements around is not negative. -/
structure Place.IsNested (p : Place String) : Prop where
  preDepth_nonneg : 0 ≤ p.preDepth

namespace Place

variable {o : Options} {p : Place String}

/-- The top level is a place inside of a fragment. -/
theorem isNested_topLevel : Place.topLevel.IsNested := ⟨Int.le_refl 0⟩

/-- The place of the content of an element is inside of the fragment, too. -/
theorem IsNested.within (h : p.IsNested) (tag : String) : (p.within tag).IsNested := by
  have hpre := h.preDepth_nonneg
  refine ⟨?_⟩
  rw [Place.within, Place.enter]
  dsimp only
  split <;> omega

/-- Text in preformatted content is kept as it stands. -/
theorem IsNested.keepsText_within (h : p.IsNested) {tag : String} (htag : tag = preTag) :
    (p.within tag).keepsText o = true := by
  have hpre := h.preDepth_nonneg
  have hinPre : (p.within tag).inPre = true := by
    rw [inPre, decide_eq_true_eq, Place.within, enter]
    simp only [htag, decide_true, Bool.true_or, if_true]
    omega
  rw [keepsText, hinPre, Bool.true_or]

end Place

/-! ## Text -/

section Text

variable {o : Options} {p : Place String}

/-- A line feed at the start does not matter for whether a text is blank. -/
@[simp] theorem allBlank_afterFeed (drop : Bool) (s : List Char) :
    allBlank (afterFeed drop s) = allBlank s := by
  unfold afterFeed
  split
  · split
    · rw [allBlank_cons, show isBlank '\n' = true by decide, Bool.true_and]
    · rfl
  · rfl

/-- A line feed at the start does not matter when a text is trimmed. -/
theorem trim_afterFeed (drop : Bool) (s : List Char) : trim (afterFeed drop s) = trim s := by
  unfold afterFeed
  split
  · split
    · exact congrArg trimEnd (Layout.trimStart_append (b := ['\n']) (by decide) _).symm
    · rfl
  · rfl

/-- A text in which every character moves on by one place has one character only. -/
theorem eq_of_append_singleton {w : List Char} {c d : Char} (h : w ++ [c] = d :: w) :
    ∀ x ∈ w, x = d := by
  induction w with
  | nil => simp
  | cons x rest ih =>
    obtain ⟨rfl, hrest⟩ := List.cons.inj h
    intro y hy
    rcases List.mem_cons.1 hy with rfl | hy
    · rfl
    · exact ih hrest y hy

/-- A visible text with something behind it is the same text without the line feed in front only if
there is neither. -/
theorem afterFeed_eq_self_iff (drop : Bool) {v : List Char} (hv : ¬ allBlank v = true)
    (b : List Char) :
    afterFeed drop (v ++ b) = v ↔ ¬ (drop = true ∧ v.head? = some '\n') ∧ b = [] := by
  have hne : v ≠ [] := by
    rintro rfl
    exact hv rfl
  obtain ⟨c, rest, rfl⟩ := List.exists_cons_of_ne_nil hne
  by_cases hdrop : drop = true ∧ c = '\n'
  · -- One character goes. If one comes, all of them are line feeds.
    obtain ⟨hd, rfl⟩ := hdrop
    rw [List.cons_append, afterFeed, if_pos hd]
    refine ⟨fun heq => ?_, fun h => absurd ⟨hd, rfl⟩ h.1⟩
    have hlength := congrArg List.length heq
    rw [List.length_append, List.length_cons] at hlength
    obtain ⟨d, rfl⟩ := List.length_eq_one_iff.1 (show b.length = 1 by omega)
    exfalso
    apply hv
    rw [allBlank_iff]
    intro x hx
    rcases List.mem_cons.1 hx with rfl | hx
    · decide
    · rw [eq_of_append_singleton heq x hx]
      decide
  · have hkeep : afterFeed drop (c :: rest ++ b) = c :: rest ++ b := by
      unfold afterFeed
      split
      · next heq =>
        obtain ⟨rfl, -⟩ := List.cons.inj heq
        rw [if_neg fun hd => hdrop ⟨hd, rfl⟩]
        exact heq.symm
      · rfl
    rw [hkeep]
    constructor
    · intro heq
      refine ⟨fun h => hdrop ⟨h.1, by simpa using h.2⟩, ?_⟩
      simpa using heq
    · rintro ⟨-, rfl⟩
      exact List.append_nil _

/-- A text is written in the same way with white space behind it that has been read back, unless
text is kept there. -/
theorem writtenText_afterFeed_iff (drop : Bool) (value : List Char) {b : List Char}
    (hb : allBlank b = true) :
    Layout.writtenText o p (afterFeed drop (Layout.writtenText o p value ++ b)) =
        Layout.writtenText o p value ↔
      allBlank value = true ∨ p.keepsText o = false ∨
        (¬ (drop = true ∧ value.head? = some '\n') ∧ b = []) := by
  by_cases hblank : allBlank value = true
  · -- Blank text is left out in both rounds.
    have hnil := (writtenText_eq_nil_iff (o := o) (p := p) value).2 hblank
    rw [hnil, writtenText_eq_nil_iff, allBlank_afterFeed, List.nil_append]
    exact ⟨fun _ => .inl hblank, fun _ => hb⟩
  · have hwritten : ∀ s : List Char, allBlank (value ++ s) = false := by
      intro s
      rw [allBlank_append, Bool.eq_false_iff.2 hblank, Bool.false_and]
    cases hkeep : p.keepsText o with
    | true =>
      have hvalue : Layout.writtenText o p value = value := by
        rw [Layout.writtenText, if_neg hblank, if_pos hkeep]
      rw [hvalue, Layout.writtenText, if_neg (by rw [allBlank_afterFeed, hwritten]; decide),
        if_pos hkeep, afterFeed_eq_self_iff drop hblank]
      simp [hblank]
    | false =>
      -- Trimming takes off what has been added in the first round.
      have hvalue : Layout.writtenText o p value = newline p.indent ++ trim value := by
        rw [Layout.writtenText, if_neg hblank, if_neg (by rw [hkeep]; decide)]
      have htrim : trim (newline p.indent ++ trim value ++ b) = trim value :=
        trim_eq_of_isTrimmed (allBlank_newline _) hb (isTrimmed_trim value)
      have hagain : ¬ allBlank (newline p.indent ++ trim value ++ b) = true := by
        rw [← trim_eq_nil_iff, htrim, trim_eq_nil_iff]
        exact hblank
      rw [hvalue, Layout.writtenText, allBlank_afterFeed, if_neg hagain,
        if_neg (by rw [hkeep]; decide), trim_afterFeed, htrim]
      simp

/-- A text of some characters is there unless there are none. -/
theorem textNodes_of_ne_nil {s : List Char} (h : s ≠ []) :
    textNodes (String.ofList s) = [.text (String.ofList s)] := by
  rw [textNodes, if_neg (by simpa using h)]

/-- The outline of a text that may be empty. -/
theorem outlines_textNodes (hescape : o.escapeInnerText = true) (s : List Char) :
    outlines o p (textNodes (String.ofList s)) = escape (Layout.writtenText o p s) := by
  cases s with
  | nil => rfl
  | cons c rest =>
    rw [textNodes, if_neg (by simp), outlines, outlines, Node.outline_text hescape,
      String.toList_ofList, List.append_nil]

end Text
end MarkupOutline
