import MarkupOutline.Value.Scalar

/-!
# Values given by callers

Options, markup arguments and formatter choices come from callers as arbitrary values. `Value` is
what such a value can be: a scalar, a collection, or one of the three styles for void elements.
-/

namespace MarkupOutline

/-- How void elements and graphic shapes are terminated. -/
inductive VoidStyle where
  /-- A void element is one open tag; shapes close themselves. -/
  | html
  /-- Void elements and shapes close themselves. -/
  | xhtml
  /-- Void elements and shapes have an end tag. -/
  | closingTag
  deriving DecidableEq, Repr

namespace VoidStyle

/-- All styles, in the order in which they are listed to users. -/
def all : List VoidStyle := [html, xhtml, closingTag]

/-- The word that selects a style. -/
def word : VoidStyle → String
  | html => "html"
  | xhtml => "xhtml"
  | closingTag => "closingTag"

/-- The style that a word selects; `xml` is a second word for `closingTag`. -/
def ofWord? (s : String) : Option VoidStyle :=
  if s = "xml" then some closingTag else all.find? (·.word = s)

/-- A style written as a literal. -/
def literal : VoidStyle → String
  | html => "<VoidElements.HTML: 'html'>"
  | xhtml => "<VoidElements.XHTML: 'xhtml'>"
  | closingTag => "<VoidElements.CLOSING_TAG: 'closingTag'>"

end VoidStyle

/-- A value handed in by a caller. -/
inductive Value where
  | scalar (s : Scalar)
  | list (items : List Value)
  | tuple (items : List Value)
  | set (items : List Value)
  | frozenSet (items : List Value)
  | mapping (entries : List (String × Value))
  | style (s : VoidStyle)
  deriving Repr, Inhabited

namespace Value

/-- The absent value. -/
def null : Value := scalar .null

/-- A text. -/
def str (s : String) : Value := scalar (.str s)

/-- The name of the value's type, as messages give it. -/
def typeName : Value → String
  | scalar s => s.typeName
  | list _ => "list"
  | tuple _ => "tuple"
  | set _ => "set"
  | frozenSet _ => "frozenset"
  | mapping _ => "dict"
  | style _ => "VoidElements"

/-- Whether the value counts as true: a collection does when it has an item. -/
def isTruthy : Value → Bool
  | scalar s => s.isTruthy
  | list items => !items.isEmpty
  | tuple items => !items.isEmpty
  | set items => !items.isEmpty
  | frozenSet items => !items.isEmpty
  | mapping entries => !entries.isEmpty
  | style _ => true

/-- The text that the value is. A style is its own word. -/
def text? : Value → Option String
  | scalar (.str s) => some s
  | style s => some s.word
  | _ => none

mutual

/-- The value written as a literal. -/
def literal : Value → String
  | scalar s => s.literal
  | list items => bracketed "[" "]" (literals items)
  | tuple items => tupleLiteral (literals items)
  | set [] => "set()"
  | set (item :: more) => bracketed "\x7b" "\x7d" (literal item :: literals more)
  | frozenSet [] => "frozenset()"
  | frozenSet (item :: more) => bracketed "frozenset(\x7b" "\x7d)" (literal item :: literals more)
  | mapping entries => bracketed "\x7b" "\x7d" (entryLiterals entries)
  | style s => s.literal

/-- The literals of a list of values. -/
def literals : List Value → List String
  | [] => []
  | item :: more => literal item :: literals more

/-- The literals of keyed entries, each a key, a colon and a value. -/
def entryLiterals : List (String × Value) → List String
  | [] => []
  | (key, value) :: more => (Text.quoted key ++ ": " ++ literal value) :: entryLiterals more

end

end Value

end MarkupOutline
