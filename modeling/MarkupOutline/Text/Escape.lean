/-!
# Escaping of text content

The five characters that mean something in markup are written as character references, one
whole-text replacement after the other. The ampersand goes first, so the ampersands that the later
replacements bring in are not escaped again.
-/

namespace MarkupOutline.Text

/-- Every occurrence of one character replaced by a text. -/
def replaceChar (c : Char) (written : List Char) (s : List Char) : List Char :=
  s.flatMap fun d => if d = c then written else [d]

/-- Text content as it is written in markup: the ampersand, the angle brackets and the two quotes
become references. -/
def escape (s : List Char) : List Char :=
  let s := replaceChar '&' "&amp;".toList s
  let s := replaceChar '<' "&lt;".toList s
  let s := replaceChar '>' "&gt;".toList s
  let s := replaceChar '"' "&quot;".toList s
  replaceChar '\'' "&#x27;".toList s

end MarkupOutline.Text
