/-!
# Tailed trees

Element trees in which character data hangs on elements: an element holds the text before its first
child, and every child holds the text that follows it, its tail. Names of elements and attributes
may carry a namespace, written between braces in front of the local name.
-/

namespace MarkupOutline

/-- What can stand in an element tree beside elements. -/
inductive Aside where
  | comment
  | instruction
  deriving DecidableEq, Repr

/-- An element, comment or processing instruction with the text behind it. -/
inductive Tailed where
  | element (name : String) (attributes : List (String × String)) (text : String)
      (children : List Tailed) (tail : String)
  /-- A comment or a processing instruction. Markup puts no children inside of it, but a tree that
  was built otherwise may have some there. -/
  | aside (kind : Aside) (text : String) (children : List Tailed) (tail : String)
  deriving Repr, Inhabited

namespace Tailed

/-- A comment with nothing inside. -/
def comment (text tail : String) : Tailed := aside .comment text [] tail

/-- A processing instruction with nothing inside. -/
def instruction (text tail : String) : Tailed := aside .instruction text [] tail

/-- The text before the first child. -/
def text : Tailed → String
  | element _ _ text _ _ => text
  | aside _ text _ _ => text

/-- The trees inside a tree. -/
def children : Tailed → List Tailed
  | element _ _ _ children _ => children
  | aside _ _ children _ => children

/-- The text behind a tree. -/
def tail : Tailed → String
  | element _ _ _ _ tail => tail
  | aside _ _ _ tail => tail

/-- The tree with more text behind it. -/
def addTail (more : String) : Tailed → Tailed
  | element name attributes text children tail =>
    element name attributes text children (tail ++ more)
  | aside kind text children tail => aside kind text children (tail ++ more)

/-- More text comes behind the text that is there. -/
theorem tail_addTail (more : String) (tree : Tailed) :
    (tree.addTail more).tail = tree.tail ++ more := by
  cases tree <;> rfl

end Tailed

end MarkupOutline
