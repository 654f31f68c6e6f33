import MarkupOutline.Draft.WellFormed
import MarkupOutline.Proofs.Render.Payload
import MarkupOutline.Proofs.Text.Escaping

/-!
# The outline and plain markup

`Node.plain` writes a node without any layout: no line breaks, no indentation, nothing trimmed. The
outline of a tree differs from it in white space only, so nothing of the tree is lost, doubled or
moved, and the options that only lay out have no other effect. Each part of the layout is shown to
add and remove nothing but white space; the recursion over the tree then puts the parts together.
-/

namespace MarkupOutline

open Text

/-! ## Plain markup -/

/-- An attribute without layout. -/
def plainAttribute (o : Options) (a : String × String) : List Char :=
  if a.2.isEmpty && !o.emptyAttributes then a.1.toList
  else a.1.toList ++ '=' :: '"' :: a.2.toList ++ ['"']

mutual

/-- A node without layout. Attributes follow each other directly, since the white space between
them is layout, too. -/
def Node.plain (o : Options) : Node → List Char
  | .text value => if o.escapeInnerText then escape value.toList else value.toList
  | .comment data => "<!--".toList ++ data.toList ++ "-->".toList
  | .element tag attributes children =>
    '<' :: tag.toList ++ attributes.flatMap (plainAttribute o) ++
      if Layout.closesItself o (.ofName tag) (!children.isEmpty) then "/>".toList
      else
        '>' :: plains o children ++
          if tag ∈ voidNames ∧ o.voidElements ≠ .closingTag then []
          else '<' :: '/' :: tag.toList ++ ['>']

/-- Nodes side by side without layout. -/
def plains (o : Options) : List Node → List Char
  | [] => []
  | node :: more => node.plain o ++ plains o more

end

/-! ## The layout of the parts -/

namespace Layout

/-- The layout of character data adds white space and removes white space. -/
theorem visible_text (o : Options) (indent : Int) (verbatim : Bool) (value : List Char) :
    visible (text o indent verbatim value) =
      visible (if o.escapeInnerText then escape value else value) := by
  unfold text
  split
  · next h =>
    -- Text that is left out has nothing visible, escaped or not.
    have hvalue : visible value = [] := (visible_eq_nil_iff value).2 h
    rw [escape_of_allBlank h, ite_self, hvalue]
    rfl
  · cases verbatim <;> simp

/-- A comment shows its payload between the delimiters. -/
theorem visible_comment (indent : Int) (data : List Char) :
    visible (comment indent data) = visible ("<!--".toList ++ data ++ "-->".toList) := by
  simp only [comment, visible_append, visible_newline, visible_payload, List.nil_append]

/-- The bracket shows how the tag ends. -/
theorem visible_bracket (closed : Bool) :
    visible (bracket closed) = if closed then "/>".toList else ['>'] := by
  cases closed <;> rfl

/-- Attributes show the same on the line of their tag and on lines of their own. -/
theorem visible_attributeList (o : Options) (indent : Int) (closed : Bool)
    (written : List (List Char)) :
    visible (attributeList o indent closed written) =
      written.flatMap visible ++ if closed then "/>".toList else ['>'] := by
  have hbroken : visible (written.flatMap fun a => newline (indent + 1) ++ a) =
      written.flatMap visible := by
    induction written with
    | nil => rfl
    | cons a more ih => rw [List.flatMap_cons, visible_append, ih]; simp
  have hspaced : visible (written.flatMap fun a => ' ' :: a) = written.flatMap visible := by
    induction written with
    | nil => rfl
    | cons a more ih =>
      rw [List.flatMap_cons, visible_append, ih (by simp_all), visible_cons, if_pos (by decide)]
      rfl
  unfold attributeList
  split
  · next h => simp [List.isEmpty_iff.1 h, visible_bracket]
  · split
    · simp only [visible_append, hbroken, visible_newline, visible_trim, visible_bracket,
        List.append_nil]
    · rw [visible_append, hspaced, visible_bracket]

/-- An attribute is written as in plain markup. -/
theorem attributeText_eq_plainAttribute (o : Options) (a : String × String) :
    attributeText o a.1.toList a.2.toList = plainAttribute o a := by
  have hempty : a.2.toList.isEmpty = a.2.isEmpty := by
    rw [Bool.eq_iff_iff]
    simp [String.isEmpty_iff]
  unfold attributeText plainAttribute
  rw [hempty]
  cases a.2.isEmpty <;> cases o.emptyAttributes <;> rfl

/-- The name of a tag shows behind its bracket. -/
theorem visible_openTag (indent : Int) (inPre : Bool) (tag : List Char) :
    visible (openTag indent inPre tag) = visible ('<' :: tag) := by
  cases inPre <;> simp [openTag]

/-- An end tag shows the same wherever it stands, and it is there unless the element is void and
end tags are not asked for. -/
theorem visible_endTag (o : Options) (name : String) (preserved hasChildren inPre : Bool)
    (indent : Int) (tag : List Char) :
    visible ((endTag o (.ofName name) preserved hasChildren inPre).write indent tag) =
      visible (if name ∈ voidNames ∧ o.voidElements ≠ .closingTag then []
        else '<' :: '/' :: tag ++ ['>']) := by
  unfold endTag
  simp only [lacksEndTag_iff]
  split
  · rfl
  · split <;> simp [EndTag.write]

end Layout

/-! ## Trees -/

mutual

/-- A node shows in its outline what it shows in plain markup. -/
theorem Node.visible_outline (o : Options) (p : Place String) :
    (node : Node) → visible (node.outline o p) = visible (node.plain o)
  | .text value => by
    rw [Node.outline, Layout.visible_text, Node.plain]
  | .comment data => by
    rw [Node.outline, Layout.visible_comment, Node.plain]
  | .element tag attributes children => by
    have hattributes : (attributes.map fun (name, value) =>
        Layout.attributeText o name.toList value.toList).flatMap visible =
        visible (attributes.flatMap (plainAttribute o)) := by
      induction attributes with
      | nil => rfl
      | cons a more ih =>
        rw [List.map_cons, List.flatMap_cons, ih, List.flatMap_cons, visible_append,
          ← Layout.attributeText_eq_plainAttribute]
    have hchildren := visible_outlines o (p.within tag) children
    have hopened : visible ('>' :: plains o children) = '>' :: visible (plains o children) := by
      rw [visible_cons, if_neg (by decide)]
    rw [Node.outline, Node.plain]
    simp only [visible_append, Layout.visible_openTag, Layout.visible_attributeList, hattributes]
    split
    · simp only [List.append_assoc]
      rfl
    · rw [visible_append, visible_append, Layout.visible_endTag, hchildren, hopened]
      simp only [List.append_assoc]
      rfl

/-- Nodes side by side show in their outlines what they show in plain markup. -/
theorem visible_outlines (o : Options) (p : Place String) :
    (nodes : List Node) → visible (outlines o p nodes) = visible (plains o nodes)
  | [] => rfl
  | node :: more => by
    rw [outlines, plains, visible_append, visible_append, Node.visible_outline o p node,
      visible_outlines o p more]

end

/-- What is visible in the rendering of a fragment. -/
theorem Fragment.visible_render (o : Options) (f : Fragment) :
    visible (f.render o).toList = visible (plains o f.children) := by
  rw [Fragment.render, String.toList_ofList, visible_trim, visible_outlines]

/-- The draft of a single node is rendered as a fragment of that node alone. -/
theorem Draft.render_ofNode (o : Options) (node : Node) :
    (Draft.ofNode node).render o = .ok (Fragment.render o ⟨[node]⟩) := by
  have h := Draft.outline_ofNode o Place.topLevel node
  have top : Place.top (Draft.str "") = Place.topLevel.draft := rfl
  cases node <;>
    simp_all [Draft.ofNode, Draft.render, bind, Except.bind, pure, Except.pure, Fragment.render,
      MarkupOutline.outlines]

/-! ## Options that only lay out -/

/-- Options with another limit for attributes on one line and other preserved tags. -/
def Options.relayout (o : Options) (limit : Nat) (tags : PreservedTags) : Options :=
  { o with attributesPerLine := limit, tagsWithWhitespacePreserved := tags }

mutual

/-- The options that only lay out have no effect on a plain node. -/
theorem Node.plain_relayout (o : Options) (limit : Nat) (tags : PreservedTags) :
    (node : Node) → node.plain (o.relayout limit tags) = node.plain o
  | .text _ => rfl
  | .comment _ => rfl
  | .element tag attributes children => by
    have hchildren := plains_relayout o limit tags children
    have hattribute : plainAttribute (o.relayout limit tags) = plainAttribute o := rfl
    have hcloses : ∀ kind hasChildren,
        Layout.closesItself (o.relayout limit tags) kind hasChildren =
          Layout.closesItself o kind hasChildren := fun _ _ => rfl
    have hstyle : (o.relayout limit tags).voidElements = o.voidElements := rfl
    rw [Node.plain, Node.plain, hchildren, hattribute, hcloses, hstyle]

/-- The options that only lay out have no effect on plain nodes side by side. -/
theorem plains_relayout (o : Options) (limit : Nat) (tags : PreservedTags) :
    (nodes : List Node) → plains (o.relayout limit tags) nodes = plains o nodes
  | [] => rfl
  | node :: more => by
    rw [plains, plains, Node.plain_relayout o limit tags node, plains_relayout o limit tags more]

end

/-- The options that only lay out change white space only. -/
theorem Fragment.visible_relayout (o : Options) (limit : Nat) (tags : PreservedTags)
    (f : Fragment) :
    visible (f.render (o.relayout limit tags)).toList = visible (f.render o).toList := by
  rw [Fragment.visible_render, Fragment.visible_render, plains_relayout]

/-! ## The rendering of trees -/

/-- The rendering of a fragment or of a single node differs from its plain markup in white space
only. Options that differ in the limit for attributes on one line and in the preserved tags give
renderings that differ in white space only. -/
theorem render_visible_eq_plain (o : Options) :
    (∀ f : Fragment, ∃ s, (Draft.ofFragment f).render o = .ok s ∧
      visible s.toList = visible (plains o f.children)) ∧
    (∀ node : Node, ∃ s, (Draft.ofNode node).render o = .ok s ∧
      visible s.toList = visible (node.plain o)) ∧
    ∀ (limit : Nat) (tags : PreservedTags),
      (∀ f : Fragment, ∃ s t, (Draft.ofFragment f).render (o.relayout limit tags) = .ok s ∧
        (Draft.ofFragment f).render o = .ok t ∧ visible s.toList = visible t.toList) ∧
      ∀ node : Node, ∃ s t, (Draft.ofNode node).render (o.relayout limit tags) = .ok s ∧
        (Draft.ofNode node).render o = .ok t ∧ visible s.toList = visible t.toList := by
  refine ⟨?_, ?_, fun limit tags => ⟨?_, ?_⟩⟩
  · intro f
    exact ⟨_, Draft.render_ofFragment o f, f.visible_render o⟩
  · intro node
    refine ⟨_, Draft.render_ofNode o node, ?_⟩
    rw [Fragment.visible_render, plains, plains, List.append_nil]
  · intro f
    exact ⟨_, _, Draft.render_ofFragment _ f, Draft.render_ofFragment o f,
      f.visible_relayout o limit tags⟩
  · intro node
    exact ⟨_, _, Draft.render_ofNode _ node, Draft.render_ofNode o node,
      Fragment.visible_relayout o limit tags ⟨[node]⟩⟩

end MarkupOutline
