import MarkupOutline.Node
import MarkupOutline.Value.Scalar

/-!
# Drafts of trees

A tree handed in by a caller, nothing in it checked: it has the shape of a markup tree, but a field
may hold any scalar, a tuple, or another node. `Draft.ofNode` says which drafts are well-formed.
-/

namespace MarkupOutline

/-- A tree whose fields may hold anything. -/
inductive Draft where
  | scalar (s : Scalar)
  | tuple (items : List Draft)
  | fragment (children : Draft)
  | element (tag attributes children : Draft)
  | text (value : Draft)
  | comment (data : Draft)
  deriving Repr, Inhabited

namespace Draft

/-- A text that is not a node. -/
def str (s : String) : Draft := scalar (.str s)

/-- The name of a draft's type, as messages give it. -/
def typeName : Draft → String
  | scalar s => s.typeName
  | tuple _ => "tuple"
  | fragment _ => "Fragment"
  | element .. => "Element"
  | text _ => "Text"
  | comment _ => "Comment"

/-- Whether a draft counts as true. Nodes always do, a tuple does when it has an item. -/
def isTruthy : Draft → Bool
  | scalar s => s.isTruthy
  | tuple items => !items.isEmpty
  | _ => true

/-- The items of a draft that can be gone through: those of a tuple, and the characters of a
text. -/
def items? : Draft → Option (List Draft)
  | tuple items => some items
  | scalar (.str s) => some (s.toList.map fun c => str (String.singleton c))
  | _ => none

mutual

/-- The draft written as a literal, with the names of all fields. -/
def literal : Draft → String
  | scalar s => s.literal
  | tuple items => tupleLiteral (literals items)
  | fragment children => "Fragment(children=" ++ literal children ++ ")"
  | element tag attributes children =>
    "Element(tag=" ++ literal tag ++ ", attributes=" ++ literal attributes ++ ", children=" ++
      literal children ++ ")"
  | text value => "Text(value=" ++ literal value ++ ")"
  | comment data => "Comment(data=" ++ literal data ++ ")"

/-- The literals of the items of a tuple. -/
def literals : List Draft → List String
  | [] => []
  | item :: more => literal item :: literals more

end

/-- The draft as running text: a text stands for itself, anything else is written as a literal. -/
def display : Draft → String
  | scalar s => s.display
  | other => other.literal

mutual

/-- Equality of drafts: of the same kind, with equal fields. -/
def same : Draft → Draft → Bool
  | scalar a, scalar b => a.same b
  | tuple as, tuple bs => allSame as bs
  | fragment a, fragment b => same a b
  | element t a c, element t' a' c' => same t t' && same a a' && same c c'
  | text a, text b => same a b
  | comment a, comment b => same a b
  | _, _ => false

/-- Equality of tuples: of the same length, with equal items. -/
def allSame : List Draft → List Draft → Bool
  | [], [] => true
  | a :: as, b :: bs => same a b && allSame as bs
  | _, _ => false

end

/-- The draft of one attribute. -/
def ofAttribute (a : String × String) : Draft := tuple [str a.1, str a.2]

mutual

/-- The draft of a node. -/
def ofNode : Node → Draft
  | .element tag attributes children =>
    element (str tag) (tuple (attributes.map ofAttribute)) (tuple (ofNodes children))
  | .text value => text (str value)
  | .comment data => comment (str data)

/-- The drafts of nodes side by side. -/
def ofNodes : List Node → List Draft
  | [] => []
  | node :: more => ofNode node :: ofNodes more

end

/-- The draft of a fragment. -/
def ofFragment (f : Fragment) : Draft := fragment (tuple (ofNodes f.children))

end Draft

end MarkupOutline
