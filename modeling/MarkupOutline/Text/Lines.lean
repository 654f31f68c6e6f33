/-!
# Lines of a text

A text is cut at its line feeds and at nothing else. `lines` always gives at least one line, and
`unlines` puts the line feeds back.
-/

namespace MarkupOutline.Text

/-- The pieces of a text between its line feeds; the empty text is one empty line. -/
def lines : List Char → List (List Char)
  | [] => [[]]
  | c :: rest =>
    if c = '\n' then [] :: lines rest
    else
      match lines rest with
      | [] => [[c]]
      | line :: more => (c :: line) :: more

/-- The lines joined by line feeds. -/
def unlines : List (List Char) → List Char
  | [] => []
  | [line] => line
  | line :: more => line ++ '\n' :: unlines more

/-- A text has at least one line. -/
theorem lines_ne_nil (s : List Char) : lines s ≠ [] := by
  cases s with
  | nil => simp [lines]
  | cons c rest =>
    unfold lines
    split
    · simp
    · split <;> simp

/-- Cutting a text into lines loses nothing. -/
theorem unlines_lines (s : List Char) : unlines (lines s) = s := by
  induction s with
  | nil => rfl
  | cons c rest ih =>
    unfold lines
    split
    · next h =>
      -- A line feed begins a new first line, which is empty.
      subst h
      match hl : lines rest with
      | [] => exact absurd hl (lines_ne_nil rest)
      | line :: more => rw [hl] at ih; simp [unlines, ih]
    · match hl : lines rest with
      | [] => exact absurd hl (lines_ne_nil rest)
      | [line] => rw [hl] at ih; simp_all [unlines]
      | line :: next :: more => rw [hl] at ih; simp_all [unlines]

end MarkupOutline.Text
