/-!
# Blank characters and trimming

A text is trimmed by the Unicode notion of white space: the characters of class `WS`, `B` or `S` of
the bidirectional algorithm together with the space separators. Everything that asks whether a text
has visible content goes through `isBlank`, and trimming removes blank characters from the two ends
only.
-/

namespace MarkupOutline.Text

/-- Whether a character is white space: the control characters U+0009 to U+000D and U+001C to
U+001F, the space, U+0085, and the separators outside ASCII. -/
def isBlank (c : Char) : Bool :=
  let n := c.toNat
  (9 ≤ n && n ≤ 13) || (28 ≤ n && n ≤ 32) || n == 0x85 || n == 0xA0 || n == 0x1680 ||
    (0x2000 ≤ n && n ≤ 0x200A) || n == 0x2028 || n == 0x2029 || n == 0x202F || n == 0x205F ||
    n == 0x3000

/-- Whether a text has no visible character. The empty text is blank. -/
def allBlank (s : List Char) : Bool := s.all isBlank

/-- The text without the blank characters at its start. -/
def trimStart (s : List Char) : List Char := s.dropWhile isBlank

/-- The text without the blank characters at its end. -/
def trimEnd : List Char → List Char
  | [] => []
  | c :: rest =>
    match trimEnd rest with
    | [] => if isBlank c then [] else [c]
    | kept => c :: kept

/-- The text without the blank characters at its two ends. -/
def trim (s : List Char) : List Char := trimEnd (trimStart s)

end MarkupOutline.Text
