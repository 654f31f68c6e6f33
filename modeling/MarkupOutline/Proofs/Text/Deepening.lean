import MarkupOutline.Proofs.Text.Lines
import MarkupOutline.Text.Indent

/-!
# Texts one level deeper

A text is moved one level deeper by putting two spaces in front of every line but the first, and
empty lines stay empty. The first line is left alone because it belongs to what stands in front of
the text. Moving goes piece by piece as long as no piece ends with a line feed, since the line that
a piece ends in the middle of is then not empty, or is the first one; `Deepens` carries this
condition along.
-/

namespace MarkupOutline.Text

/-! ## Lines put together -/

/-- Every line but the first is put behind a line feed. -/
theorem unlines_cons (line : List Char) (more : List (List Char)) :
    unlines (line :: more) = line ++ more.flatMap ('\n' :: ·) := by
  induction more generalizing line with
  | nil => exact (List.append_nil line).symm
  | cons next more ih =>
    rw [List.flatMap_cons, List.cons_append, ← ih next, unlines]
    exact List.cons_ne_nil next more

/-- A line behind others is put behind a line feed. -/
theorem unlines_concat {front : List (List Char)} (hne : front ≠ []) (last : List Char) :
    unlines (front ++ [last]) = unlines front ++ '\n' :: last := by
  obtain ⟨line, more, rfl⟩ := List.exists_cons_of_ne_nil hne
  rw [List.cons_append, unlines_cons, unlines_cons, List.flatMap_append, List.flatMap_singleton,
    List.append_assoc]

/-- Of two texts one after the other, the last line of the first goes on with the first line of the
second. -/
theorem unlines_append_unlines (front : List (List Char)) (last first : List Char)
    (more : List (List Char)) :
    unlines (front ++ [last]) ++ unlines (first :: more) =
      unlines (front ++ (last ++ first) :: more) := by
  cases front with
  | nil =>
    rw [List.nil_append, List.nil_append, unlines, unlines_cons, unlines_cons, List.append_assoc]
  | cons line rest =>
    simp only [List.cons_append, unlines_cons, List.flatMap_append, List.flatMap_cons,
      List.flatMap_nil, List.append_assoc, List.append_nil]

/-- The lines of two texts one after the other. -/
theorem exists_lines_append_lines (s t : List Char) :
    ∃ front last first more, lines s = front ++ [last] ∧ lines t = first :: more ∧
      lines (s ++ t) = front ++ (last ++ first) :: more := by
  obtain ⟨front, last, hs, -⟩ := exists_lines_append s
  obtain ⟨first, more, ht⟩ := List.exists_cons_of_ne_nil (lines_ne_nil t)
  refine ⟨front, last, first, more, hs, ht, ?_⟩
  have hfeed : ∀ l ∈ front ++ (last ++ first) :: more, '\n' ∉ l := by
    intro l hl
    have hmem (k : List Char) (hk : k ∈ lines s ∨ k ∈ lines t) : '\n' ∉ k :=
      hk.elim not_mem_of_mem_lines not_mem_of_mem_lines
    rw [hs, ht] at hmem
    rcases List.mem_append.1 hl with hl | hl
    · exact hmem l (by simp [hl])
    · rcases List.mem_cons.1 hl with rfl | hl
      · rw [List.mem_append, not_or]
        exact ⟨hmem last (by simp), hmem first (by simp)⟩
      · exact hmem l (by simp [hl])
  have happend : s ++ t = unlines (front ++ (last ++ first) :: more) := by
    rw [← unlines_append_unlines, ← hs, ← ht, unlines_lines, unlines_lines]
  rw [happend, lines_unlines (by simp) hfeed]

/-! ## Moving -/

/-- A line two spaces to the right. An empty line stays empty. -/
def indentLine (line : List Char) : List Char := if line.isEmpty then [] else ' ' :: ' ' :: line

/-- A line that is not empty. -/
theorem indentLine_of_ne_nil {line : List Char} (h : line ≠ []) :
    indentLine line = ' ' :: ' ' :: line := by
  rw [indentLine, if_neg (by simpa using h)]

/-- A text with all its lines but the first two spaces to the right. -/
def deepen (s : List Char) : List Char :=
  match lines s with
  | [] => []
  | first :: more => unlines (first :: more.map indentLine)

/-- Lines put together, one level deeper. -/
theorem deepen_unlines {first : List Char} {more : List (List Char)}
    (h : ∀ l ∈ first :: more, '\n' ∉ l) :
    deepen (unlines (first :: more)) = unlines (first :: more.map indentLine) := by
  rw [deepen, lines_unlines (List.cons_ne_nil _ _) h]

/-- A text of one line has no other line that could be moved. -/
theorem deepen_of_not_mem {s : List Char} (h : '\n' ∉ s) : deepen s = s := by
  rw [deepen, lines_of_not_mem h]
  rfl

/-- Two texts are moved one after the other if the first does not end with a line feed. -/
theorem deepen_append {s : List Char} (hs : s.getLast? ≠ some '\n') (t : List Char) :
    deepen (s ++ t) = deepen s ++ deepen t := by
  obtain ⟨front, last, first, more, hls, hlt, happend⟩ := exists_lines_append_lines s t
  cases front with
  | nil =>
    rw [deepen, happend, deepen, hls, deepen, hlt]
    exact (unlines_append_unlines [] last first (more.map indentLine)).symm
  | cons line rest =>
    -- An empty last line behind others would be one that a line feed has begun.
    have hlast : last ≠ [] := by
      rintro rfl
      rw [← unlines_lines s, hls, unlines_concat (List.cons_ne_nil _ _)] at hs
      simp at hs
    have hmiddle : indentLine (last ++ first) = indentLine last ++ first := by
      rw [indentLine_of_ne_nil hlast, indentLine_of_ne_nil (by simp [hlast])]
      rfl
    rw [deepen, happend, deepen, hls, deepen, hlt]
    dsimp only [List.cons_append]
    rw [List.map_append, List.map_append, List.map_cons, List.map_singleton, hmiddle]
    exact (unlines_append_unlines (line :: rest.map indentLine) (indentLine last) first
      (more.map indentLine)).symm

/-- A text that starts a line, one level deeper: all its lines are moved. -/
theorem deepen_of_startsLine {s : List Char} (h : StartsLine s) :
    deepen s = ((startedLines s).map indentLine).flatMap ('\n' :: ·) := by
  obtain rfl | ⟨t, rfl⟩ := h
  · rfl
  · have hlines : lines ('\n' :: t) = [] :: lines t := by rw [lines, if_pos rfl]
    rw [deepen, hlines, startedLines_cons]
    exact unlines_cons [] _

/-! ## Texts at two depths -/

/-- The second of two texts is the first one level deeper, and more text can be put behind them. -/
structure Deepens (s t : List Char) : Prop where
  eq : t = deepen s
  ends : s.getLast? ≠ some '\n'

namespace Deepens

variable {s t s' t' : List Char}

/-- Text without a line feed is the same at both depths. -/
theorem of_not_mem (h : '\n' ∉ s) : Deepens s s :=
  ⟨(deepen_of_not_mem h).symm, fun hlast => h (List.mem_of_getLast? hlast)⟩

/-- Pieces one after the other. -/
theorem append (h : Deepens s t) (h' : Deepens s' t') : Deepens (s ++ s') (t ++ t') := by
  refine ⟨by rw [deepen_append h.ends, ← h.eq, ← h'.eq], ?_⟩
  rw [List.getLast?_append]
  cases hlast : s'.getLast? with
  | none => exact h.ends
  | some c =>
    rw [Option.some_or, ← hlast]
    exact h'.ends

/-- Lines behind line feeds, of which the last is not empty. -/
theorem newlines (front : List (List Char)) {last : List Char}
    (h : ∀ l ∈ front ++ [last], '\n' ∉ l) (hlast : last ≠ []) :
    Deepens ('\n' :: unlines (front ++ [last]))
      ('\n' :: unlines (front.map indentLine ++ [indentLine last])) := by
  have hfeed (ls : List (List Char)) (hne : ls ≠ []) : '\n' :: unlines ls = unlines ([] :: ls) := by
    rw [unlines, List.nil_append]
    exact hne
  rw [hfeed _ (by simp), hfeed _ (by simp)]
  refine ⟨?_, ?_⟩
  · rw [deepen_unlines (List.forall_mem_cons.2 ⟨List.not_mem_nil, h⟩), List.map_append,
      List.map_singleton]
  · rw [← List.cons_append, unlines_concat (List.cons_ne_nil _ _), List.getLast?_append]
    obtain ⟨c, hc⟩ := Option.isSome_iff_exists.1 (List.getLast?_isSome.2 hlast)
    rw [List.getLast?_cons, hc, Option.getD_some, Option.some_or]
    rintro ⟨⟩
    exact h last (by simp) (List.mem_of_getLast? hc)

end Deepens

/-- One level of indentation is two spaces. -/
theorem indentation_succ {level : Int} (h : 0 ≤ level) :
    indentation (level + 1) = ' ' :: ' ' :: indentation level := by
  have hcount : 2 * (level + 1).toNat = 2 * level.toNat + 1 + 1 := by omega
  rw [indentation, hcount, List.replicate_succ, List.replicate_succ]
  rfl

/-- Indentation has no line feed. -/
theorem not_mem_indentation (level : Int) : '\n' ∉ indentation level := fun h =>
  absurd (List.eq_of_mem_replicate h) (by decide)

/-- An indented line is moved by a level. -/
theorem indentLine_indentation_append {level : Int} (h : 0 ≤ level) {s : List Char}
    (hs : indentation level ++ s ≠ []) :
    indentLine (indentation level ++ s) = indentation (level + 1) ++ s := by
  rw [indentLine_of_ne_nil hs, indentation_succ h]
  rfl

/-- A new line that is not empty, at two depths. -/
theorem Deepens.newline {level : Int} (h : 0 ≤ level) {s : List Char} (hs : '\n' ∉ s)
    (hne : indentation level ++ s ≠ []) :
    Deepens (newline level ++ s) (newline (level + 1) ++ s) := by
  have hfeed : ∀ l ∈ [] ++ [indentation level ++ s], '\n' ∉ l := by
    rw [List.nil_append, List.forall_mem_singleton, List.mem_append, not_or]
    exact ⟨not_mem_indentation level, hs⟩
  have hline := Deepens.newlines [] hfeed hne
  rw [indentLine_indentation_append h hne] at hline
  exact hline

end MarkupOutline.Text
