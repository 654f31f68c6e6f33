import MarkupOutline.Draft.WellFormed
import MarkupOutline.Proofs.Render.Blocks

/-!
# White space between tags

Blank texts can be put in and taken out anywhere in a fragment without an effect on its rendering, as
long as no element becomes childless by it or stops being so (`render_eq_of_withoutBlanks_eq`). Two
things about the children of an element matter: what is written for them, to which blank texts add
nothing, and whether there are any, blank or not, since this decides how the element ends.

So an outline can be told from the tree without its blank texts and from which of its elements are
childless. `restore` makes a tree of the two, with a blank text in each element that is not childless
and has nothing else left, and this tree is written like the one that they have been taken from
(`outlines_restore`).
-/

namespace MarkupOutline

open Text

/-! ## Trees without blank texts -/

mutual

/-- A node without the blank texts in it; nothing if it is one. -/
def Node.withoutBlanks : Node → List Node
  | .text value => if allBlank value.toList then [] else [.text value]
  | .comment data => [.comment data]
  | .element tag attributes children => [.element tag attributes (withoutBlanks children)]

/-- Nodes side by side without the blank texts among them and in them. -/
def withoutBlanks : List Node → List Node
  | [] => []
  | node :: more => node.withoutBlanks ++ withoutBlanks more

end

mutual

/-- For each element of a tree, in document order, whether it is childless. -/
def Node.childlessness : Node → List Bool
  | .text _ => []
  | .comment _ => []
  | .element _ _ children => children.isEmpty :: childlessness children

/-- For each element of trees side by side, in document order, whether it is childless. -/
def childlessness : List Node → List Bool
  | [] => []
  | node :: more => node.childlessness ++ childlessness more

end

/-! ## Blank texts put back -/

/-- The children of an element that is childless or not, given those that are not blank texts. -/
def refill (childless : Bool) (content : List Node) : List Node :=
  if content.isEmpty && !childless then [.text ""] else content

mutual

/-- A node with blank texts put back into its elements as their marks say, and the marks that are left
over. Each element takes one mark, which says whether it is childless. -/
def Node.restore (marks : List Bool) : Node → Node × List Bool
  | .text value => (.text value, marks)
  | .comment data => (.comment data, marks)
  | .element tag attributes children =>
    let content := restore marks.tail children
    (.element tag attributes (refill (marks.headD true) content.1), content.2)

/-- Nodes side by side with blank texts put back, and the marks that are left over. -/
def restore (marks : List Bool) : List Node → List Node × List Bool
  | [] => ([], marks)
  | node :: more =>
    let first := node.restore marks
    let rest := restore first.2 more
    (first.1 :: rest.1, rest.2)

end

/-- The marks that are left over by the first nodes are for the others. -/
theorem restore_append (marks : List Bool) (before after : List Node) :
    restore marks (before ++ after) =
      ((restore marks before).1 ++ (restore (restore marks before).2 after).1,
        (restore (restore marks before).2 after).2) := by
  induction before generalizing marks with
  | nil => rfl
  | cons node more ih => rw [List.cons_append, restore, ih, restore]; rfl

/-- Nothing is written for the blank text that stands for lost content. -/
theorem outlines_refill (o : Options) (p : Place String) (childless : Bool) (content : List Node) :
    outlines o p (refill childless content) = outlines o p content := by
  unfold refill
  split
  · next h =>
    rw [Bool.and_eq_true, List.isEmpty_iff] at h
    rw [h.1]
    rfl
  · rfl

/-- An element is childless after its content has been put back if it was before. -/
theorem isEmpty_refill {children content : List Node}
    (h : children.isEmpty = true → content.isEmpty = true) :
    (refill children.isEmpty content).isEmpty = children.isEmpty := by
  unfold refill
  cases hchildren : children.isEmpty with
  | true => simpa using h hchildren
  | false => cases hcontent : content.isEmpty <;> simp [hcontent]

/-! ## Outlines of restored trees -/

/-- An element depends on what is written for its children and on whether there are any. -/
theorem Node.outline_element_congr {children children' : List Node}
    (hempty : children'.isEmpty = children.isEmpty) (o : Options) (p : Place String) (tag : String)
    (attributes : List (String × String))
    (hchildren : outlines o (p.within tag) children' = outlines o (p.within tag) children) :
    (Node.element tag attributes children').outline o p =
      (Node.element tag attributes children).outline o p := by
  rw [Node.outline, Node.outline, hempty, hchildren]

/-- Nodes side by side are restored from their non-blank part and their marks, whatever other marks
stand behind these: the others are left over, and the result is written like the nodes. -/
structure Restores (nodes nonblank : List Node) (marks : List Bool) : Prop where
  leftOver : ∀ others, (restore (marks ++ others) nonblank).2 = others
  outlines_eq : ∀ others (o : Options) (p : Place String),
    outlines o p (restore (marks ++ others) nonblank).1 = outlines o p nodes

mutual

/-- A node is restored from its non-blank part and the marks of its elements. -/
theorem Node.restores : (node : Node) → Restores [node] node.withoutBlanks node.childlessness
  | .text value => by
    rw [Node.withoutBlanks, Node.childlessness]
    split
    · next hblank =>
      refine ⟨fun _ => rfl, fun others o p => ?_⟩
      rw [outlines, Node.outline_of_allBlank hblank]
      rfl
    · exact ⟨fun _ => rfl, fun _ _ _ => rfl⟩
  | .comment data => ⟨fun _ => rfl, fun _ _ _ => rfl⟩
  | .element tag attributes children => by
    have hcontent := restores children
    refine ⟨fun others => hcontent.leftOver others, fun others o p => ?_⟩
    -- The first mark is the one of the element, and its children take theirs from the others.
    let content := (restore (childlessness children ++ others) (withoutBlanks children)).1
    have hempty : (refill children.isEmpty content).isEmpty = children.isEmpty := by
      refine isEmpty_refill fun hnil => ?_
      rw [List.isEmpty_iff] at hnil
      subst hnil
      rfl
    have hwritten : outlines o (p.within tag) (refill children.isEmpty content) =
        outlines o (p.within tag) children := by
      rw [outlines_refill]
      exact hcontent.outlines_eq others o _
    have helement := Node.outline_element_congr hempty o p tag attributes hwritten
    exact congrArg (· ++ []) helement

/-- Nodes side by side are restored from their non-blank part and the marks of their elements. -/
theorem restores : (nodes : List Node) → Restores nodes (withoutBlanks nodes) (childlessness nodes)
  | [] => ⟨fun _ => rfl, fun _ _ _ => rfl⟩
  | node :: more => by
    have hfirst := node.restores
    have hrest := restores more
    rw [withoutBlanks, childlessness]
    constructor
    · intro others
      rw [List.append_assoc, restore_append, hfirst.leftOver, hrest.leftOver]
    · intro others o p
      rw [List.append_assoc, restore_append, outlines_append, hfirst.outlines_eq, hfirst.leftOver,
        hrest.outlines_eq, outlines, outlines, outlines, List.append_nil]

end

/-- The outline of nodes side by side can be told from their non-blank part and from which of their
elements are childless. -/
theorem outlines_restore (o : Options) (p : Place String) (nodes : List Node) :
    outlines o p (restore (childlessness nodes) (withoutBlanks nodes)).1 = outlines o p nodes := by
  have h := (restores nodes).outlines_eq [] o p
  rwa [List.append_nil] at h

/-- Two fragments that are equal without their blank texts, and of whose elements those that
correspond to each other, which are those at the same position in document order, are both childless
or both not childless, are rendered alike under all options. -/
theorem render_eq_of_withoutBlanks_eq (o : Options) {f g : Fragment}
    (htree : withoutBlanks f.children = withoutBlanks g.children)
    (hchildless : childlessness f.children = childlessness g.children) :
    ∃ s, (Draft.ofFragment f).render o = .ok s ∧ (Draft.ofFragment g).render o = .ok s := by
  have houtlines : outlines o Place.topLevel f.children = outlines o Place.topLevel g.children := by
    calc outlines o Place.topLevel f.children
        = outlines o Place.topLevel
            (restore (childlessness f.children) (withoutBlanks f.children)).1 :=
          (outlines_restore o _ _).symm
      _ = outlines o Place.topLevel
            (restore (childlessness g.children) (withoutBlanks g.children)).1 := by
          rw [htree, hchildless]
      _ = outlines o Place.topLevel g.children := outlines_restore o _ _
  have hrender : f.render o = g.render o := by rw [Fragment.render, houtlines, Fragment.render]
  refine ⟨f.render o, Draft.render_ofFragment o f, ?_⟩
  rw [hrender]
  exact Draft.render_ofFragment o g

/-- A paragraph with a link, preformatted content, a line break and an element with nothing but
blank text, with white space in other places. -/
theorem render_eq_of_withoutBlanks_eq_paragraph :
    let f : Fragment := ⟨[.text "\n", .element "p" []
      [.text "one", .element "a" [("href", "u")] [.text "\t", .element "b" [] [.text " two "]],
        .element "pre" [] [.text "\n\n", .comment " ", .text "  "], .element "i" [] [.text " "],
        .element "br" [] []]]⟩
    let g : Fragment := ⟨[.element "p" []
      [.text " ", .text "one", .text "\n  ", .element "a" [("href", "u")]
        [.element "b" [] [.text " two "], .text "\n"], .element "pre" [] [.comment " "],
        .element "i" [] [.text "\n", .text ""], .text " ", .element "br" [] []], .text "\n"]⟩
    withoutBlanks f.children = withoutBlanks g.children ∧
      childlessness f.children = childlessness g.children ∧
      ∃ s, (Draft.ofFragment f).render .default = .ok s ∧
        (Draft.ofFragment g).render .default = .ok s := by
  intro f g
  have htree : withoutBlanks f.children = withoutBlanks g.children := by decide
  have hchildless : childlessness f.children = childlessness g.children := by decide
  exact ⟨htree, hchildless, render_eq_of_withoutBlanks_eq .default htree hchildless⟩

-- An element that is childless differs from one with nothing but blank text in it.
example : Fragment.render .default ⟨[.element "p" [] []]⟩ = "<p></p>" ∧
    Fragment.render .default ⟨[.element "p" [] [.text " "]]⟩ = "<p>\n</p>" := by
  decide

end MarkupOutline
