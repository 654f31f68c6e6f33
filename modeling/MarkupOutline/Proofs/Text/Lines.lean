import MarkupOutline.Text.Lines

/-!
# Lines of texts put together

A line feed between two texts separates their lines, so the lines of a text that is put together
from pieces, each of which begins with a line feed, are those of the pieces one after the other.
-/

namespace MarkupOutline.Text

/-- A line feed separates the lines of two texts. -/
theorem lines_append_newline (s t : List Char) : lines (s ++ '\n' :: t) = lines s ++ lines t := by
  induction s with
  | nil => simp [lines]
  | cons c rest ih =>
    by_cases hc : c = '\n'
    · simp [lines, hc, ih]
    · rw [List.cons_append, lines, if_neg hc, ih, lines, if_neg hc]
      cases h : lines rest with
      | nil => exact absurd h (lines_ne_nil rest)
      | cons line more => rfl

/-- A text without a line feed is one line. -/
theorem lines_of_not_mem {s : List Char} (h : '\n' ∉ s) : lines s = [s] := by
  induction s with
  | nil => rfl
  | cons c rest ih =>
    rw [List.mem_cons, not_or] at h
    rw [lines, if_neg (Ne.symm h.1), ih h.2]

/-- The lines that are put together are those of the text they make up. -/
theorem lines_unlines {ls : List (List Char)} (hne : ls ≠ []) (h : ∀ l ∈ ls, '\n' ∉ l) :
    lines (unlines ls) = ls := by
  fun_induction unlines ls with
  | case1 => exact absurd rfl hne
  | case2 line => exact lines_of_not_mem (h line (by simp))
  | case3 line more hmore ih =>
    rw [lines_append_newline, lines_of_not_mem (h line (by simp)),
      ih hmore fun l hl => h l (by simp [hl])]
    rfl

/-- A line has no line feed inside. -/
theorem not_mem_of_mem_lines {s l : List Char} (h : l ∈ lines s) : '\n' ∉ l := by
  induction s generalizing l with
  | nil =>
    rw [lines, List.mem_singleton] at h
    rw [h]
    exact List.not_mem_nil
  | cons c rest ih =>
    rw [lines] at h
    split at h
    · rcases List.mem_cons.1 h with rfl | hrest
      · exact List.not_mem_nil
      · exact ih hrest
    · next hc =>
      split at h
      · next hnil => exact absurd hnil (lines_ne_nil rest)
      · next line more hlines =>
        rcases List.mem_cons.1 h with rfl | hrest
        · rw [List.mem_cons, not_or]
          exact ⟨Ne.symm hc, ih (by simp [hlines])⟩
        · exact ih (by simp [hlines, hrest])

/-- A text without a line feed that is put behind another one goes on with its last line. -/
theorem exists_lines_append (s : List Char) :
    ∃ front last, lines s = front ++ [last] ∧
      ∀ t, '\n' ∉ t → lines (s ++ t) = front ++ [last ++ t] := by
  induction s with
  | nil => exact ⟨[], [], rfl, fun t ht => lines_of_not_mem ht⟩
  | cons c rest ih =>
    obtain ⟨front, last, hlines, happend⟩ := ih
    by_cases hc : c = '\n'
    · refine ⟨[] :: front, last, ?_, fun t ht => ?_⟩
      · rw [lines, if_pos hc, hlines, List.cons_append]
      · rw [List.cons_append, lines, if_pos hc, happend t ht, List.cons_append]
    · cases front with
      | nil =>
        refine ⟨[], c :: last, ?_, fun t ht => ?_⟩
        · rw [lines, if_neg hc, hlines]
          rfl
        · rw [List.cons_append, lines, if_neg hc, happend t ht]
          rfl
      | cons line more =>
        refine ⟨(c :: line) :: more, last, ?_, fun t ht => ?_⟩
        · rw [lines, if_neg hc, hlines]
          rfl
        · rw [List.cons_append, lines, if_neg hc, happend t ht]
          rfl

/-- A text that is empty or begins with a line feed, so that it does not touch the line it is
written behind. -/
def StartsLine (s : List Char) : Prop := s = [] ∨ ∃ t, s = '\n' :: t

/-- The lines that begin inside of a text. -/
def startedLines (s : List Char) : List (List Char) := (lines s).tail

/-- No line begins inside of the empty text. -/
@[simp] theorem startedLines_nil : startedLines [] = [] := rfl

/-- The lines that begin inside of a text behind a line feed are all of its lines. -/
theorem startedLines_cons (t : List Char) : startedLines ('\n' :: t) = lines t := by
  simp [startedLines, lines]

/-- The lines that begin inside of two texts, of which the second does not touch the last line of
the first. -/
theorem startedLines_append (s : List Char) {t : List Char} (ht : StartsLine t) :
    startedLines (s ++ t) = startedLines s ++ startedLines t := by
  obtain rfl | ⟨u, rfl⟩ := ht
  · simp
  · rw [startedLines, lines_append_newline, List.tail_append_of_ne_nil (lines_ne_nil s),
      startedLines_cons, startedLines]

/-- The two texts together start a line if both do. -/
theorem StartsLine.append {s t : List Char} (hs : StartsLine s) (ht : StartsLine t) :
    StartsLine (s ++ t) := by
  obtain rfl | ⟨u, rfl⟩ := hs
  · exact ht
  · exact .inr ⟨u ++ t, rfl⟩

end MarkupOutline.Text
