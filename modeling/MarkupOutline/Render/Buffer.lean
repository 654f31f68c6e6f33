import MarkupOutline.Text.Indent

/-!
# Output buffers

Output put together piece by piece. What counts is the text that the pieces make up; pieces without
characters leave no trace.
-/

namespace MarkupOutline

/-- The pieces of output put together so far, the last one first. -/
structure Buffer where
  pieces : List (List Char) := []
  deriving Repr

namespace Buffer

/-- A piece added. -/
def append (piece : List Char) (b : Buffer) : Buffer :=
  if piece.isEmpty then b else ⟨piece :: b.pieces⟩

/-- A new line begun at a level. -/
def newline (level : Int) (b : Buffer) : Buffer :=
  (b.append ['\n']).append (Text.indentation level)

/-- The text that the pieces make up. -/
def build (b : Buffer) : List Char := b.pieces.reverse.flatten

/-- Adding a piece adds its characters. -/
theorem build_append (piece : List Char) (b : Buffer) :
    (b.append piece).build = b.build ++ piece := by
  unfold append
  split
  · next h => simp [List.isEmpty_iff.1 h]
  · simp [build]

/-- Beginning a line adds a line feed and its indentation. -/
theorem build_newline (level : Int) (b : Buffer) :
    (b.newline level).build = b.build ++ Text.newline level := by
  simp [newline, build_append, Text.newline]

end Buffer

end MarkupOutline
