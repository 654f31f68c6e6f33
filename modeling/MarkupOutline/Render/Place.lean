/-!
# Places in a tree

What the layout of a node depends on besides the node itself: how deep it is nested, the tag of the
element around it, and whether some enclosing element is preformatted. A place is a value, so
siblings share the place of their parent's content and nothing has to be restored after a subtree.
-/

namespace MarkupOutline

/-- The tag whose content is preformatted, at every depth below it. -/
def preTag : String := "pre"

/-- Where a node stands. Tags are texts in a well-formed tree and may be something else in a
hand-built one. -/
structure Place (Tag : Type) where
  /-- The nesting depth, 0 at the top. -/
  indent : Int
  /-- The tag of the nearest enclosing element. -/
  nearestTag : Tag
  /-- Positive inside a preformatted element and below. -/
  preDepth : Int
  deriving DecidableEq, Repr

namespace Place

variable {Tag : Type}

/-- Whether the place is inside a preformatted element. -/
def inPre (p : Place Tag) : Bool := 0 < p.preDepth

/-- The place of the children of an element at `p`. -/
def enter (p : Place Tag) (tag : Tag) (preformatted : Bool) : Place Tag :=
  { indent := p.indent + 1
    nearestTag := tag
    preDepth := if preformatted || p.inPre then p.preDepth + 1 else p.preDepth }

/-- The place of the top-level nodes, where `noTag` stands for the tag that is not there. -/
def top (noTag : Tag) : Place Tag := ⟨0, noTag, 0⟩

/-- Once inside a preformatted element, every deeper place is inside as well. -/
theorem inPre_enter (p : Place Tag) (tag : Tag) (preformatted : Bool) (h : p.inPre = true) :
    (p.enter tag preformatted).inPre = true := by
  simp_all [inPre, enter]
  omega

end Place

/-- The place of the children of an element of a well-formed tree. -/
def Place.within (p : Place String) (tag : String) : Place String := p.enter tag (tag = preTag)

end MarkupOutline
