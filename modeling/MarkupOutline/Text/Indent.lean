/-!
# Indentation

Nesting is shown by two spaces a level. A level that is not positive has no indentation.
-/

namespace MarkupOutline.Text

/-- Two spaces for each level. -/
def indentation (level : Int) : List Char := List.replicate (2 * level.toNat) ' '

/-- A line feed and the indentation of the line it starts. -/
def newline (level : Int) : List Char := '\n' :: indentation level

end MarkupOutline.Text
