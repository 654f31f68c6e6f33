import MarkupOutline.Html.Reference.Decoding

/-!
# Tokens of markup

Markup is read as a sequence of tokens: runs of character data, start and end tags, comments and
document type declarations. Where a token ends depends on the content model in force, which the
start tags of a few elements change.
-/

namespace MarkupOutline.Html

/-- A start tag. -/
structure Tag where
  /-- The name, with ASCII letters in lower case. -/
  name : String
  /-- The attributes in their order, of those with equal names only the first. -/
  attributes : List (String × String) := []
  /-- A slash stands before the closing bracket. -/
  selfClosing : Bool := false
  deriving DecidableEq, Repr

/-- A token. -/
inductive Token where
  | text (characters : List Char)
  | startTag (tag : Tag)
  | endTag (name : String)
  | comment (data : String)
  | doctype
  deriving DecidableEq, Repr

/-- How text is read: what is recognised in it besides its characters. -/
inductive ContentModel where
  /-- Tags, comments, declarations and references. -/
  | data
  /-- References, and the end tag of the named element. -/
  | escapableText (element : String)
  /-- The end tag of the named element. -/
  | rawText (element : String)
  /-- The end tag of a script, outside of script inside a comment. -/
  | script
  /-- Nothing. -/
  | plain
  deriving DecidableEq, Repr

/-- The characters that separate the parts of a tag. -/
def isSpace (c : Char) : Bool := c = ' ' || c = '\n' || c = '\t' || c.toNat = 0x0C

/-- A text with every line break written as one line feed. -/
def normalizeNewlines : List Char → List Char
  | [] => []
  | '\r' :: '\n' :: rest => '\n' :: normalizeNewlines rest
  | '\r' :: rest => '\n' :: normalizeNewlines rest
  | c :: rest => c :: normalizeNewlines rest

/-- The character, or its replacement if it is the null character. -/
def withoutNull (c : Char) : Char := if c.toNat = 0 then Reference.replacement else c

end MarkupOutline.Html
