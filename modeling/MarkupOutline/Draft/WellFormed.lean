import MarkupOutline.Draft.Outline

/-!
# Rendering of well-formed drafts

The draft of a well-formed tree is rendered as the tree is, and without a fault. So whatever holds
of the rendering of trees holds of that of their drafts.
-/

namespace MarkupOutline

/-- A place in a tree as a place in its draft. -/
def Place.draft (p : Place String) : Place Draft := ⟨p.indent, .str p.nearestTag, p.preDepth⟩

/-- A place and its draft are at the same depth. -/
theorem Place.draft_indent (p : Place String) : p.draft.indent = p.indent := rfl

/-- A place is preformatted as its draft is. -/
theorem Place.draft_inPre (p : Place String) : p.draft.inPre = p.inPre := rfl

/-- Entering an element of a tree is entering its draft. -/
theorem Place.draft_within (p : Place String) (tag : String) :
    p.draft.enter (.str tag) (Draft.str tag).isPre = (p.within tag).draft := rfl

namespace Draft

/-- The attribute of a draft is written as that of the tree. -/
theorem attributeText_str (o : Options) (name value : String) :
    attributeText o (str name) (str value) =
      some (Layout.attributeText o name.toList value.toList) := by
  have h : value.toList.isEmpty = value.isEmpty := by
    rw [Bool.eq_iff_iff]
    simp [String.isEmpty_iff]
  by_cases hv : value.isEmpty <;> by_cases ho : o.emptyAttributes <;>
    simp [attributeText, Layout.attributeText, str, isTruthy, Scalar.isTruthy, display,
      Scalar.display, written, h, hv, ho]

/-- The items of a draft that are attributes of a tree are written one after the other. -/
theorem mapM_ofAttribute (o : Options) (attributes : List (String × String)) :
    (attributes.map ofAttribute).mapM (fun item => do
      let (name, value) ← item.expectPair
      pure (attributeText o name value)) =
    (Except.ok ((attributes.map fun (name, value) =>
      Layout.attributeText o name.toList value.toList).map some) :
        Except RenderFault (List Written)) := by
  induction attributes with
  | nil => rfl
  | cons a more ih =>
    rw [List.map_cons, List.mapM_cons, ih]
    simp [ofAttribute, expectPair, items?, attributeText_str, bind, Except.bind, pure, Except.pure]

/-- The attributes of a draft are written as those of the tree. -/
theorem attributeTexts_ofAttributes (o : Options) (attributes : List (String × String)) :
    attributeTexts o (tuple (attributes.map ofAttribute)) =
      .ok ((attributes.map fun (name, value) =>
        Layout.attributeText o name.toList value.toList).map some) := by
  unfold attributeTexts
  split
  · exact mapM_ofAttribute o attributes
  · next h =>
    cases attributes with
    | nil => rfl
    | cons a more => exact absurd rfl h

/-- Parts that can all be written are written together. -/
theorem mapM_some (parts : List (List Char)) :
    (parts.map some).mapM id = (some parts : Option (List (List Char))) := by
  induction parts with
  | nil => rfl
  | cons a more ih =>
    rw [List.map_cons, List.mapM_cons, ih]
    rfl

mutual

/-- The draft of a node contributes what the node does. -/
theorem outline_ofNode (o : Options) (p : Place String) :
    (node : Node) → (ofNode node).outline o p.draft = .ok (some (node.outline o p))
  | .text value => rfl
  | .comment data => rfl
  | .element tag attributes children => by
    have hc : (tuple (ofNodes children)).isTruthy = !children.isEmpty := by
      cases children <;> rfl
    have hk := outlines_ofNodes o (p.within tag) children
    have kind_eq : (str tag).kind = Kind.ofName tag := rfl
    have preserved_eq : (str tag).preservedBy o = o.preserves tag := rfl
    have written_eq : (str tag).written = some tag.toList := rfl
    simp only [ofNode, outline, attributeTexts_ofAttributes, hc, bind, Except.bind, contents,
      Place.draft_within, hk, mapM_some, Node.outline, kind_eq, preserved_eq, written_eq,
      Place.draft_indent, Place.draft_inPre, Option.map_some, Written.append]
    split <;> simp_all [pure, Except.pure]

/-- The drafts of nodes side by side contribute what the nodes do. -/
theorem outlines_ofNodes (o : Options) (p : Place String) :
    (nodes : List Node) →
      outlines o p.draft (ofNodes nodes) = .ok (some (MarkupOutline.outlines o p nodes))
  | [] => rfl
  | node :: more => by
    simp [ofNodes, outlines, MarkupOutline.outlines, outline_ofNode o p node,
      outlines_ofNodes o p more, bind, Except.bind, pure, Except.pure, Written.append]

end

/-- The draft of a fragment is rendered as the fragment. -/
theorem render_ofFragment (o : Options) (f : Fragment) :
    (ofFragment f).render o = .ok (f.render o) := by
  have h := outlines_ofNodes o Place.topLevel f.children
  have top : Place.top (str "") = Place.topLevel.draft := rfl
  simp [render, ofFragment, contents, top, h, bind, Except.bind, pure, Except.pure,
    Fragment.render]

end Draft

end MarkupOutline
