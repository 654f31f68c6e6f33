import MarkupOutline.Node
import MarkupOutline.Render.Layout
import MarkupOutline.Render.Place

/-!
# Rendering of well-formed trees

The outline of a tree: every element starts on a line of its own, two spaces deeper than its
parent, so that a change in the markup moves only the lines of the subtree that changed.
Preformatted content and the text inside preserved tags gain no line break and no indentation.
Rendering a well-formed tree cannot fail.
-/

namespace MarkupOutline

mutual

/-- What a node contributes to the output at a place. -/
def Node.outline (o : Options) (p : Place String) : Node → List Char
  | .text value => Layout.text o p.indent (p.inPre || o.preserves p.nearestTag) value.toList
  | .comment data => Layout.comment p.indent data.toList
  | .element tag attributes children =>
    let kind := Kind.ofName tag
    let hasChildren := !children.isEmpty
    let closed := Layout.closesItself o kind hasChildren
    let inner := p.within tag
    Layout.openTag p.indent p.inPre tag.toList ++
      Layout.attributeList o p.indent closed
        (attributes.map fun (name, value) => Layout.attributeText o name.toList value.toList) ++
      if closed then []
      else
        outlines o inner children ++
          (Layout.endTag o kind (o.preserves tag) hasChildren inner.inPre).write p.indent tag.toList

/-- What nodes side by side contribute, one after the other. -/
def outlines (o : Options) (p : Place String) : List Node → List Char
  | [] => []
  | node :: more => node.outline o p ++ outlines o p more

end

/-- Nothing is written for a blank text. -/
theorem Node.outline_of_allBlank {value : String} (h : Text.allBlank value.toList = true)
    (o : Options) (p : Place String) : (Node.text value).outline o p = [] := by
  rw [Node.outline, Layout.text, if_pos h]

/-- The place of the top-level nodes of a well-formed tree. -/
def Place.topLevel : Place String := Place.top ""

namespace Fragment

/-- The outline of a fragment, without the line break before its first node. -/
def render (o : Options) (f : Fragment) : String :=
  String.ofList (Text.trim (outlines o Place.topLevel f.children))

end Fragment

end MarkupOutline
