import Mathlib.Data.List.Infix
import Mathlib.Tactic.Common
import MarkupOutline.Proofs.Text.Lines
import MarkupOutline.Proofs.Text.Splitting
import MarkupOutline.Proofs.Text.Trimming
import MarkupOutline.Render.Layout

/-!
# Comment payloads

The payload of a comment is laid out by moving its lines to another depth and by setting it off from
the delimiters. White space is all that this changes: the payload shows what the data shows, and a
word without white space occurs in the payload only if it occurs in the data, which goes for the
closing delimiters in particular. Laying out a payload once more changes nothing, and at another
depth it leaves no trace of the first layout (`payload_absorbs`): every line is trimmed at its start
before it is indented, and the white space around the lines is trimmed or replaced.
-/

namespace MarkupOutline.Layout

open Text

/-! ## What is visible -/

/-- Indentation is white space. -/
@[simp] theorem visible_indentation (level : Int) : visible (indentation level) = [] := by
  rw [visible_eq_nil_iff, allBlank_iff]
  intro c hc
  rw [List.eq_of_mem_replicate hc]
  rfl

/-- The beginning of a line is white space. -/
@[simp] theorem visible_newline (level : Int) : visible (newline level) = [] := by
  rw [newline, visible_cons, if_pos (by decide), visible_indentation]

/-- What is visible in lines is visible in the text they make up. -/
theorem visible_unlines (ls : List (List Char)) : visible (unlines ls) = ls.flatMap visible := by
  fun_induction unlines ls with
  | case1 => rfl
  | case2 line => simp
  | case3 line more hmore ih =>
    rw [visible_append, visible_cons, if_pos (by decide), ih, List.flatMap_cons]

/-- Moving lines to another depth changes nothing visible. -/
theorem visible_reindent (indent : Int) (ls : List (List Char)) :
    (reindent indent ls).flatMap visible = ls.flatMap visible := by
  fun_induction reindent indent ls with
  | case1 => rfl
  | case2 last => simp
  | case3 line more hmore moved ih =>
    have hmoved : visible moved = visible line := by
      cases hline : line.isEmpty with
      | true => simp [moved, List.isEmpty_iff.1 hline]
      | false => simp [moved, hline]
    rw [List.flatMap_cons, List.flatMap_cons, ih, hmoved]

/-- The layout of a comment payload changes nothing visible. -/
theorem visible_payload (indent : Int) (data : List Char) :
    visible (payload indent data) = visible data := by
  unfold payload
  split
  · next h => rw [(visible_eq_nil_iff data).2 h, visible_nil]
  · have hbody : visible (unlines (reindent indent (lines data))) = visible data := by
      rw [visible_unlines, visible_reindent, ← visible_unlines, unlines_lines]
    have hspace : visible [' '] = [] := rfl
    simp only
    split <;> split <;> simp [visible_cons, hbody, hspace, show isBlank ' ' = true from rfl]

/-- The layout of a payload is blank only if the data is. -/
theorem allBlank_payload (indent : Int) (data : List Char) :
    allBlank (payload indent data) = allBlank data := by
  rw [Bool.eq_iff_iff, ← visible_eq_nil_iff, ← visible_eq_nil_iff, visible_payload]

/-! ## Words -/

section Words

variable {w : List Char}

/-- A text that contains a word without a character contains it on one side of that character. -/
theorem infix_append_cons {a b : List Char} {c : Char} (hc : c ∉ w) (h : w <:+: a ++ c :: b) :
    w <:+: a ∨ w <:+: b := by
  obtain ⟨s, t, hst⟩ := h
  rcases List.append_eq_append_iff.1 hst with ⟨u, ha, -⟩ | ⟨u, hw, ht⟩
  · exact .inl ⟨s, u, ha.symm⟩
  · cases u with
    | nil => exact .inl ⟨s, [], by simpa using hw⟩
    | cons d v =>
      -- The word reaches beyond the character, so it begins behind it.
      obtain ⟨rfl, rfl⟩ := List.cons.inj ht
      rcases List.append_eq_append_iff.1 hw with ⟨x, -, hx⟩ | ⟨x, -, hx⟩
      · rw [hx] at hc
        simp at hc
      · cases x with
        | nil =>
          rw [← List.nil_append w, ← hx] at hc
          simp at hc
        | cons e y =>
          obtain ⟨rfl, rfl⟩ := List.cons.inj hx
          exact .inr ⟨y, t, rfl⟩

variable (hne : w ≠ []) (hw : ∀ c ∈ w, isBlank c = false)

include hw in
/-- A word without white space has no blank character. -/
theorem not_mem_of_isBlank {c : Char} (hc : isBlank c = true) : c ∉ w := by
  intro hmem
  rw [hw c hmem] at hc
  cases hc

include hne hw

/-- White space in front of a text brings in no word. -/
theorem infix_of_blank_append {s t : List Char} (hs : allBlank s = true) (h : w <:+: s ++ t) :
    w <:+: t := by
  induction s with
  | nil => exact h
  | cons c rest ih =>
    rw [allBlank_cons, Bool.and_eq_true] at hs
    rcases infix_append_cons (a := []) (not_mem_of_isBlank hw hs.1) h with hnil | hrest
    · exact absurd (List.infix_nil.1 hnil) hne
    · exact ih hs.2 hrest

/-- White space behind a text brings in no word. -/
theorem infix_of_append_blank {s t : List Char} (ht : allBlank t = true) (h : w <:+: s ++ t) :
    w <:+: s := by
  cases t with
  | nil => rwa [List.append_nil] at h
  | cons c rest =>
    rw [allBlank_cons, Bool.and_eq_true] at ht
    rcases infix_append_cons (not_mem_of_isBlank hw ht.1) h with hfront | hrest
    · exact hfront
    · rw [← List.append_nil rest] at hrest
      exact absurd (List.infix_nil.1 (infix_of_blank_append hne hw ht.2 hrest)) hne

/-- A word in lines that are put together is inside of one line. -/
theorem exists_infix_of_unlines {ls : List (List Char)} (h : w <:+: unlines ls) :
    ∃ l ∈ ls, w <:+: l := by
  fun_induction unlines ls with
  | case1 => exact absurd (List.infix_nil.1 h) hne
  | case2 line => exact ⟨line, by simp, h⟩
  | case3 line more hmore ih =>
    rcases infix_append_cons (not_mem_of_isBlank hw (by decide)) h with hline | hrest
    · exact ⟨line, by simp, hline⟩
    · obtain ⟨l, hl, hlw⟩ := ih hrest
      exact ⟨l, by simp [hl], hlw⟩

omit hne hw in
/-- A line of a text is part of it. -/
theorem infix_unlines {l : List Char} {ls : List (List Char)} (h : l ∈ ls) : l <:+: unlines ls := by
  fun_induction unlines ls with
  | case1 => simp at h
  | case2 line =>
    rw [List.mem_singleton.1 h]
  | case3 line more hmore ih =>
    rcases List.mem_cons.1 h with rfl | hrest
    · exact (List.prefix_append _ _).isInfix
    · exact (ih hrest).trans ⟨line ++ ['\n'], [], by simp⟩

/-- Moving lines to another depth brings in no word. -/
theorem exists_infix_of_reindent {indent : Int} {ls : List (List Char)} {l : List Char}
    (hl : l ∈ reindent indent ls) (h : w <:+: l) : ∃ k ∈ ls, w <:+: k := by
  fun_induction reindent indent ls with
  | case1 => simp at hl
  | case2 last =>
    obtain ⟨front, back, hlast, -⟩ := exists_append_trim last
    rw [List.mem_singleton.1 hl] at h
    exact ⟨last, by simp, h.trans ⟨front, back, hlast.symm⟩⟩
  | case3 line more hmore moved ih =>
    rcases List.mem_cons.1 hl with rfl | hrest
    · have hmoved : w <:+: trimStart line := by
        unfold moved at h
        split at h
        · exact absurd (List.infix_nil.1 h) hne
        · refine infix_of_blank_append hne hw ?_ h
          rw [← visible_eq_nil_iff, visible_indentation]
      exact ⟨line, by simp, hmoved.trans (List.dropWhile_suffix _).isInfix⟩
    · obtain ⟨k, hk, hkw⟩ := ih hrest
      exact ⟨k, by simp [hk], hkw⟩

end Words

/-! ## The lines of a payload -/

/-- The data of a comment with its lines moved to a nesting depth. -/
def movedLines (indent : Int) (data : List Char) : List Char :=
  unlines (reindent indent (lines data))

/-- What stands in front of moved lines: a space, unless they begin with a line feed. -/
def opening (body : List Char) : List Char := if body.head? == some '\n' then [] else [' ']

/-- What stands behind moved lines: indentation if they end with a line feed, or else a space. -/
def closing (indent : Int) (body : List Char) : List Char :=
  if endsLine (opening body ++ body) then indentation indent else [' ']

/-- A payload that is not blank consists of its moved lines with white space around them. -/
theorem payload_eq (indent : Int) {data : List Char} (h : ¬ allBlank data = true) :
    payload indent data = opening (movedLines indent data) ++ movedLines indent data ++
      closing indent (movedLines indent data) := by
  unfold payload
  rw [if_neg h]
  change (let body := movedLines indent data; _) = _
  unfold closing opening
  dsimp only
  split <;> split <;> simp_all [movedLines]

/-- What stands in front of moved lines is blank. -/
theorem allBlank_opening (body : List Char) : allBlank (opening body) = true := by
  unfold opening
  split <;> rfl

/-- What stands behind moved lines is blank. -/
theorem allBlank_closing (indent : Int) (body : List Char) :
    allBlank (closing indent body) = true := by
  unfold closing
  split
  · rw [← visible_eq_nil_iff, visible_indentation]
  · rfl

/-- The layout of a payload brings in no word. -/
theorem infix_of_payload {w : List Char} (hne : w ≠ []) (hvisible : w.any isBlank = false)
    {indent : Int} {data : List Char} (h : w <:+: payload indent data) : w <:+: data := by
  have hw : ∀ c ∈ w, isBlank c = false := by simpa using hvisible
  by_cases hblank : allBlank data = true
  · rw [payload, if_pos hblank] at h
    exact absurd (List.infix_nil.1 h) hne
  · rw [payload_eq indent hblank] at h
    have hbody := infix_of_blank_append hne hw (allBlank_opening _)
      (infix_of_append_blank hne hw (allBlank_closing _ _) h)
    obtain ⟨l, hl, hlw⟩ := exists_infix_of_unlines hne hw hbody
    obtain ⟨k, hk, hkw⟩ := exists_infix_of_reindent hne hw hl hlw
    have hdata := hkw.trans (infix_unlines hk)
    rwa [unlines_lines] at hdata

/-- The last character of a payload is blank. -/
theorem isBlank_of_getLast?_payload {indent : Int} {data : List Char} {c : Char}
    (h : (payload indent data).getLast? = some c) : isBlank c = true := by
  by_cases hblank : allBlank data = true
  · rw [payload, if_pos hblank] at h
    cases h
  · rw [payload_eq indent hblank, List.getLast?_append, closing] at h
    split at h
    · next hends =>
      rw [indentation, List.getLast?_replicate] at h
      rw [endsLine, beq_iff_eq] at hends
      split at h
      · rw [Option.none_or, hends, Option.some.injEq] at h
        rw [← h]
        decide
      · rw [Option.some_or, Option.some.injEq] at h
        rw [← h]
        decide
    · rw [List.getLast?_singleton, Option.some_or, Option.some.injEq] at h
      rw [← h]
      decide

/-- The first character of a payload is blank. -/
theorem isBlank_of_head?_payload {indent : Int} {data : List Char} {c : Char}
    (h : (payload indent data).head? = some c) : isBlank c = true := by
  by_cases hblank : allBlank data = true
  · rw [payload, if_pos hblank] at h
    cases h
  · rw [payload_eq indent hblank, opening] at h
    split at h
    · next hhead =>
      rw [beq_iff_eq] at hhead
      rw [List.nil_append, List.head?_append, hhead, Option.some_or, Option.some.injEq] at h
      rw [← h]
      decide
    · rw [List.append_assoc, List.singleton_append, List.head?_cons, Option.some.injEq] at h
      rw [← h]
      decide

/-- The payload of a comment whose data has no closing delimiter has none, either, and does not end
like the beginning of one. -/
theorem noArrow_payload (indent : Int) {data : List Char} (h : ¬ arrow <:+: data) :
    NoArrow (payload indent data) := by
  refine ⟨fun harrow => h (infix_of_payload (by decide) (by decide) harrow), fun hlast => ?_⟩
  exact absurd (isBlank_of_getLast?_payload hlast) (by decide)

/-! ## Laying out once more -/

/-- A line that is not the last one, moved to a nesting depth. -/
def movedLine (indent : Int) (line : List Char) : List Char :=
  if line.isEmpty then [] else indentation (indent + 1) ++ trimStart line

/-- All lines but the last are moved, and the last is trimmed. -/
theorem reindent_concat (indent : Int) (front : List (List Char)) (last : List Char) :
    reindent indent (front ++ [last]) = front.map (movedLine indent) ++ [trim last] := by
  induction front with
  | nil => rfl
  | cons line more ih =>
    rw [List.cons_append, reindent, ih]
    · rfl
    · simp

/-- White space in front of a text is lost when the start is trimmed. -/
theorem trimStart_append {b : List Char} (hb : allBlank b = true) (s : List Char) :
    trimStart (b ++ s) = trimStart s := by
  rw [allBlank_iff] at hb
  rw [trimStart, trimStart, List.dropWhile_append_of_pos hb]

/-- Indentation is blank. -/
theorem allBlank_indentation (level : Int) : allBlank (indentation level) = true := by
  rw [← visible_eq_nil_iff, visible_indentation]

/-- Moving lines to depth `k` takes back that they have been moved to depth `j` before. -/
def Absorbs (k j : Int) : Prop := ∀ line, movedLine k (movedLine j line) = movedLine k line

/-- White space that an earlier move has put in front of a line is replaced, as long as the line has
not become empty by it. -/
theorem movedLine_movedLine {j k : Int} {line : List Char}
    (hempty : movedLine j line = [] → movedLine k line = []) :
    movedLine k (movedLine j line) = movedLine k line := by
  by_cases hmoved : movedLine j line = []
  · rw [hmoved, hempty hmoved]
    rfl
  · have hline : ¬ line.isEmpty = true := by
      intro hnil
      rw [movedLine, if_pos hnil] at hmoved
      exact hmoved rfl
    rw [movedLine, if_neg (by simpa using hmoved), movedLine, if_neg hline, movedLine,
      if_neg hline, trimStart_append (allBlank_indentation _), trimStart, trimStart,
      List.dropWhile_idempotent]

/-- Lines that have been moved to a depth stay where they are. -/
theorem absorbs_self (indent : Int) : Absorbs indent indent := fun _ => movedLine_movedLine id

/-- It does not matter to which depth lines have been moved before. -/
theorem absorbs_of_nonneg (k : Int) {j : Int} (hj : 0 ≤ j) : Absorbs k j := by
  intro line
  refine movedLine_movedLine fun hmoved => ?_
  -- Below the top level a moved line is indented, so it is empty only if the line has been.
  have hline : line.isEmpty = true := by
    by_contra hne
    rw [movedLine, if_neg hne, List.append_eq_nil_iff, indentation, List.replicate_eq_nil_iff]
      at hmoved
    omega
  rw [movedLine, if_pos hline]

/-- No line feed stands inside of lines that have been moved. -/
theorem not_mem_of_mem_reindent {indent : Int} {data l : List Char}
    (h : l ∈ reindent indent (lines data)) : '\n' ∉ l := by
  obtain ⟨front, last, hlines, -⟩ := exists_lines_append data
  rw [hlines, reindent_concat, List.mem_append, List.mem_map, List.mem_singleton] at h
  intro hmem
  rcases h with ⟨line, hline, rfl⟩ | rfl
  · have hdata : line ∈ lines data := by simp [hlines, hline]
    unfold movedLine at hmem
    split at hmem
    · cases hmem
    · rcases List.mem_append.1 hmem with hspace | hrest
      · exact absurd (List.eq_of_mem_replicate hspace) (by decide)
      · exact not_mem_of_mem_lines hdata ((List.dropWhile_suffix _).subset hrest)
  · have hdata : last ∈ lines data := by simp [hlines]
    exact not_mem_of_mem_lines hdata (mem_of_mem_trim hmem)

/-- A character of lines that are put together is a line feed or stands in one of them. -/
theorem mem_unlines {c : Char} {ls : List (List Char)} (h : c ∈ unlines ls) :
    c = '\n' ∨ ∃ l ∈ ls, c ∈ l := by
  fun_induction unlines ls with
  | case1 => cases h
  | case2 line => exact .inr ⟨line, by simp, h⟩
  | case3 line more hmore ih =>
    rcases List.mem_append.1 h with hline | hrest
    · exact .inr ⟨line, by simp, hline⟩
    · rcases List.mem_cons.1 hrest with hfeed | hrest
      · exact .inl hfeed
      · rcases ih hrest with hfeed | ⟨l, hl, hc⟩
        · exact .inl hfeed
        · exact .inr ⟨l, by simp [hl], hc⟩

/-- A character of a payload stands in the data or is a space or a line feed. -/
theorem mem_payload {indent : Int} {data : List Char} {c : Char} (h : c ∈ payload indent data) :
    c ∈ data ∨ c = ' ' ∨ c = '\n' := by
  have hindentation : ∀ {level : Int}, c ∈ indentation level → c ∈ data ∨ c = ' ' ∨ c = '\n' :=
    fun hc => .inr (.inl (List.eq_of_mem_replicate hc))
  have hline : ∀ {l : List Char}, l ∈ lines data → c ∈ l → c ∈ data := by
    intro l hl hc
    rw [← unlines_lines data]
    exact (infix_unlines hl).subset hc
  by_cases hblank : allBlank data = true
  · rw [payload, if_pos hblank] at h
    cases h
  rw [payload_eq indent hblank, List.mem_append, List.mem_append] at h
  rcases h with (hopening | hbody) | hclosing
  · unfold opening at hopening
    split at hopening
    · cases hopening
    · exact .inr (.inl (List.mem_singleton.1 hopening))
  · obtain ⟨front, last, hlines, -⟩ := exists_lines_append data
    rcases mem_unlines hbody with hfeed | ⟨l, hl, hc⟩
    · exact .inr (.inr hfeed)
    rw [hlines, reindent_concat, List.mem_append, List.mem_map, List.mem_singleton] at hl
    rcases hl with ⟨k, hk, rfl⟩ | rfl
    · unfold movedLine at hc
      split at hc
      · cases hc
      · rcases List.mem_append.1 hc with hspace | hrest
        · exact hindentation hspace
        · exact .inl (hline (by simp [hlines, hk]) ((List.dropWhile_suffix _).subset hrest))
    · exact .inl (hline (by simp [hlines]) (mem_of_mem_trim hc))
  · unfold closing at hclosing
    split at hclosing
    · exact hindentation hclosing
    · exact .inr (.inl (List.mem_singleton.1 hclosing))

/-- The lines of some data are moved as if they had not been moved before. -/
theorem Absorbs.movedLines_movedLines {j k : Int} (h : Absorbs k j) (data : List Char) :
    movedLines k (movedLines j data) = movedLines k data := by
  obtain ⟨front, last, hlines, -⟩ := exists_lines_append data
  have hne : reindent j (lines data) ≠ [] := by
    rw [hlines, reindent_concat]
    simp
  have hagain : lines (movedLines j data) = reindent j (lines data) :=
    lines_unlines hne fun l hl => not_mem_of_mem_reindent hl
  have hmoved : movedLine k ∘ movedLine j = movedLine k := funext h
  rw [movedLines, hagain, movedLines, hlines, reindent_concat, reindent_concat, reindent_concat,
    List.map_map, hmoved, trim_of_isTrimmed (isTrimmed_trim last)]

/-- White space behind the last line does not matter when lines are moved. -/
theorem movedLines_append_blank (indent : Int) (s : List Char) {b : List Char}
    (hb : allBlank b = true) (hfeed : '\n' ∉ b) :
    movedLines indent (s ++ b) = movedLines indent s := by
  obtain ⟨front, last, hlines, happend⟩ := exists_lines_append s
  rw [movedLines, movedLines, happend b hfeed, hlines, reindent_concat, reindent_concat,
    trim_append_blank last hb]

/-- A space in front of the first line does not matter when lines are moved, unless that line is
empty. -/
theorem movedLines_opening_append (indent : Int) (s : List Char) :
    movedLines indent (opening s ++ s) = movedLines indent s := by
  unfold opening
  split
  · rfl
  · next hhead =>
    cases hlines : lines s with
    | nil => exact absurd hlines (lines_ne_nil s)
    | cons line more =>
      have hspace : lines (' ' :: s) = (' ' :: line) :: more := by
        rw [lines, if_neg (by decide), hlines]
      rw [List.cons_append, List.nil_append, movedLines, movedLines, hspace, hlines]
      cases more with
      | nil =>
        have htrim : trim (' ' :: line) = trim line :=
          congrArg trimEnd (trimStart_append (b := [' ']) (by decide) line)
        change unlines [trim (' ' :: line)] = unlines [trim line]
        rw [htrim]
      | cons next more =>
        -- The first of several lines is empty only if the text begins with a line feed.
        have hline : line ≠ [] := by
          rintro rfl
          cases s with
          | nil => simp [lines] at hlines
          | cons c rest =>
            have hc : c ≠ '\n' := by simpa using hhead
            rw [lines, if_neg hc] at hlines
            split at hlines <;> simp at hlines
        have hmoved : movedLine indent (' ' :: line) = movedLine indent line := by
          rw [movedLine, movedLine, if_neg (by simp), if_neg (by simpa using hline),
            ← trimStart_append (b := [' ']) (by decide) line]
          rfl
        change unlines (movedLine indent (' ' :: line) :: reindent indent (next :: more)) =
          unlines (movedLine indent line :: reindent indent (next :: more))
        rw [hmoved]

/-- The layout of a payload takes back that the payload has been laid out before. -/
theorem Absorbs.payload_payload {j k : Int} (h : Absorbs k j) (data : List Char) :
    payload k (payload j data) = payload k data := by
  by_cases hblank : allBlank data = true
  · have hfirst : payload j data = [] := by rw [payload, if_pos hblank]
    rw [hfirst, payload, if_pos allBlank_nil, payload, if_pos hblank]
  · have hagain : ¬ allBlank (payload j data) = true := by rwa [allBlank_payload]
    have hfeed : '\n' ∉ closing j (movedLines j data) := by
      unfold closing
      split
      · intro hmem
        exact absurd (List.eq_of_mem_replicate hmem) (by decide)
      · decide
    -- What the first layout puts around the moved lines is white space that the second one drops.
    have hmoved : movedLines k (payload j data) = movedLines k data := by
      rw [payload_eq j hblank, movedLines_append_blank k _ (allBlank_closing j _) hfeed,
        movedLines_opening_append, h.movedLines_movedLines]
    rw [payload_eq k hagain, hmoved, ← payload_eq k hblank]

/-- The layout of a payload leaves a payload that has been laid out as it is. -/
theorem payload_payload (indent : Int) (data : List Char) :
    payload indent (payload indent data) = payload indent data :=
  (absorbs_self indent).payload_payload data

/-- A payload is laid out at a depth as if it had not been laid out at another depth before, nor at
any number of depths one after the other. -/
theorem payload_absorbs (k : Nat) (data : List Char) :
    (∀ j : Nat, payload k (payload j data) = payload k data) ∧
      ∀ depths : List Nat,
        payload k (depths.foldl (fun moved (j : Nat) => payload j moved) data) = payload k data := by
  have hstep (j : Nat) (moved : List Char) : payload k (payload j moved) = payload k moved :=
    (absorbs_of_nonneg k (Int.natCast_nonneg j)).payload_payload moved
  refine ⟨fun j => hstep j data, fun depths => ?_⟩
  induction depths generalizing data with
  | nil => rfl
  | cons j more ih => rw [List.foldl_cons, ih, hstep]

end MarkupOutline.Layout
