/-!
# Markup trees

The tree of a piece of markup: elements with ordered attributes, character data, and comments. A
fragment is a list of such nodes side by side.
-/

namespace MarkupOutline

/-- A node of a markup tree. -/
inductive Node where
  /-- An element. Attributes keep their order and may repeat a name; one without a value has the
  empty text as its value. -/
  | element (tag : String) (attributes : List (String × String)) (children : List Node)
  /-- Character data, with character references resolved. -/
  | text (value : String)
  /-- A comment; the payload is everything between its delimiters. -/
  | comment (data : String)
  deriving Repr, Inhabited

mutual

/-- Whether two nodes are equal can be decided. -/
def Node.decideEq : (a b : Node) → Decidable (a = b)
  | .element tag attributes children, .element tag' attributes' children' =>
    have := decideEqs children children'
    decidable_of_iff (tag = tag' ∧ attributes = attributes' ∧ children = children') (by simp)
  | .text value, .text value' => decidable_of_iff (value = value') (by simp)
  | .comment data, .comment data' => decidable_of_iff (data = data') (by simp)
  | .element .., .text _ | .element .., .comment _ | .text _, .element .. | .text _, .comment _
  | .comment _, .element .. | .comment _, .text _ => isFalse nofun

/-- Whether two lists of nodes are equal can be decided. -/
def Node.decideEqs : (as bs : List Node) → Decidable (as = bs)
  | [], [] => isTrue rfl
  | a :: as, b :: bs =>
    have := decideEq a b
    have := decideEqs as bs
    decidable_of_iff (a = b ∧ as = bs) (by simp)
  | [], _ :: _ | _ :: _, [] => isFalse nofun

end

instance : DecidableEq Node := Node.decideEq

/-- Whether a node is character data. -/
def Node.isText : Node → Bool
  | .text _ => true
  | _ => false

/-- Nodes side by side, without an element around them. -/
structure Fragment where
  children : List Node := []
  deriving DecidableEq, Repr, Inhabited

end MarkupOutline
