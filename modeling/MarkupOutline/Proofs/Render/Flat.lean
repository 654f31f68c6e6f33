import MarkupOutline.Proofs.Render.Parts
import MarkupOutline.Proofs.Render.Plain

/-!
# Preformatted content is written the same everywhere

In preformatted content a node is written flat: its tags, its attributes behind single spaces, its
texts as they stand, and nothing between them. `Node.flat` writes a node in this way and is given no
place, so what a node in preformatted content contributes does not depend on how deep it is nested,
on the tag around it or on the tags that are preserved (`Node.outline_preformatted_eq_flat`). What
carries the recursion is that the content of an element in preformatted content is preformatted as
well; every part of the layout asks for that before it begins a new line, comments and wrapped
attributes excepted.
-/

namespace MarkupOutline

open Text

/-! ## Flat markup -/

mutual

/-- A node written flat. Blank texts are left out, and so is the content of an element that closes
itself. -/
def Node.flat (o : Options) : Node → List Char
  | .text value =>
    if allBlank value.toList then []
    else if o.escapeInnerText then escape value.toList else value.toList
  | .comment data => "<!--".toList ++ data.toList ++ "-->".toList
  | .element tag attributes children =>
    '<' :: tag.toList ++ attributes.flatMap (fun a => ' ' :: plainAttribute o a) ++
      if Layout.closesItself o (.ofName tag) (!children.isEmpty) then " />".toList
      else
        '>' :: flats o children ++
          if tag ∈ voidNames ∧ o.voidElements ≠ .closingTag then []
          else '<' :: '/' :: tag.toList ++ ['>']

/-- Nodes side by side written flat. -/
def flats (o : Options) : List Node → List Char
  | [] => []
  | node :: more => node.flat o ++ flats o more

end

mutual

/-- Whether a tree is without comments and its elements have a limited number of attributes each. -/
def Node.staysFlat (limit : Nat) : Node → Bool
  | .text _ => true
  | .comment _ => false
  | .element _ attributes children => decide (attributes.length ≤ limit) && stayFlat limit children

/-- Whether this holds of trees side by side. -/
def stayFlat (limit : Nat) : List Node → Bool
  | [] => true
  | node :: more => node.staysFlat limit && stayFlat limit more

end

/-! ## Parts of nodes -/

namespace Layout

/-- Verbatim text is written as it stands unless it is blank. -/
theorem text_verbatim (o : Options) (indent : Int) (value : List Char) :
    text o indent true value =
      if allBlank value then [] else if o.escapeInnerText then escape value else value :=
  rfl

/-- Attributes within the limit stay on the line of their tag, and the bracket follows them. -/
theorem attributeList_of_le (o : Options) (indent : Int) (closed : Bool)
    {attributes : List (String × String)} (h : attributes.length ≤ o.attributesPerLine) :
    attributeList o indent closed (attributeTexts o attributes) =
      attributes.flatMap (fun a => ' ' :: plainAttribute o a) ++ bracket closed := by
  rw [attributeList_eq, decide_eq_false (Nat.not_lt.2 h), ending, attributeTexts, List.flatMap_map]
  congr 2
  funext a
  exact congrArg (' ' :: ·) (attributeText_eq_plainAttribute o a)

/-- In preformatted content an end tag is written directly behind the content, if there is one. -/
theorem write_endTag_of_inPre (o : Options) (tag : String) (preserved hasChildren : Bool)
    (indent : Int) :
    (endTag o (.ofName tag) preserved hasChildren true).write indent tag.toList =
      if tag ∈ voidNames ∧ o.voidElements ≠ .closingTag then []
      else '<' :: '/' :: tag.toList ++ ['>'] := by
  unfold endTag
  simp only [lacksEndTag_iff, Bool.or_true, if_true]
  split <;> rfl

end Layout

/-! ## Trees -/

mutual

/-- A node in preformatted content is written flat if its attributes are within the limit. -/
theorem Node.outline_eq_flat (o : Options) (limit : Nat) (tags : PreservedTags) :
    ∀ (node : Node) {p : Place String}, p.inPre = true → node.staysFlat limit = true →
      node.outline (o.relayout limit tags) p = node.flat o
  | .text value, p, hp, _ => by
    rw [Node.outline, Node.flat, hp, Bool.true_or, Layout.text_verbatim]
    rfl
  | .comment data, p, _, h => by cases h
  | .element tag attributes children, p, hp, h => by
    rw [Node.staysFlat, Bool.and_eq_true, decide_eq_true_iff] at h
    obtain ⟨hattributes, hchildren⟩ := h
    -- The content is preformatted as well, so it is written flat, too.
    have hinner : (p.within tag).inPre = true := Place.inPre_enter p tag _ hp
    have hcontent := outlines_eq_flats o limit tags children hinner hchildren
    have hcloses : Layout.closesItself (o.relayout limit tags) (.ofName tag) (!children.isEmpty) =
        Layout.closesItself o (.ofName tag) (!children.isEmpty) := rfl
    have hopen (closed : Bool) : Layout.openTag p.indent true tag.toList ++
        Layout.attributeList (o.relayout limit tags) p.indent closed
          (Layout.attributeTexts (o.relayout limit tags) attributes) =
        '<' :: tag.toList ++ attributes.flatMap (fun a => ' ' :: plainAttribute o a) ++
          Layout.bracket closed := by
      rw [Layout.attributeList_of_le _ _ _ hattributes, List.append_assoc]
      rfl
    rw [Node.outline, Node.flat]
    simp only [hp, hinner, hcontent, hcloses, Layout.write_endTag_of_inPre]
    rw [← Layout.attributeTexts, hopen, List.append_assoc]
    congr 1
    cases Layout.closesItself o (.ofName tag) (!children.isEmpty) with
    | true => exact List.append_nil _
    | false => rfl

/-- Nodes side by side in preformatted content are written flat. -/
theorem outlines_eq_flats (o : Options) (limit : Nat) (tags : PreservedTags) :
    ∀ (nodes : List Node) {p : Place String}, p.inPre = true → stayFlat limit nodes = true →
      outlines (o.relayout limit tags) p nodes = flats o nodes
  | [], _, _, _ => rfl
  | node :: more, p, hp, h => by
    rw [stayFlat, Bool.and_eq_true] at h
    rw [outlines, flats, Node.outline_eq_flat o limit tags node hp h.1,
      outlines_eq_flats o limit tags more hp h.2]

end

/-- A node without comments, of whose elements none has more attributes than stay on one line, is
written flat at every place in preformatted content. What it contributes there is the same at every
depth, inside of every tag, at every depth of preformatting and whichever tags are preserved. -/
theorem Node.outline_preformatted_eq_flat (o : Options) {node : Node}
    (h : node.staysFlat o.attributesPerLine = true) (tags : PreservedTags) {p : Place String}
    (hp : 0 < p.preDepth) :
    (Draft.ofNode node).outline { o with tagsWithWhitespacePreserved := tags } p.draft =
      .ok (some (node.flat o)) := by
  have hpre : p.inPre = true := decide_eq_true hp
  have hflat := Node.outline_eq_flat o o.attributesPerLine tags node hpre h
  rw [Draft.outline_ofNode, ← hflat]
  rfl

/-- A link with an empty attribute around text on two lines, a line break, a shape, a text area and
another preformatted element, deep inside of preformatted content and with all tags preserved. -/
theorem Node.outline_preformatted_eq_flat_link :
    let o : Options := { selfClosingTag := true, attributesPerLine := 2 }
    let node := Node.element "a" [("href", "u"), ("id", "")]
      [.text " one\n  <two> ", .element "br" [] [], .text "\n",
        .element "path" [("d", "M 0 0")] [], .element "textarea" [] [],
        .element "pre" [] [.element "b" [] [.text "three"], .element "i" [] []]]
    let p : Place String := ⟨4, "p", 3⟩
    node.staysFlat o.attributesPerLine = true ∧ 0 < p.preDepth ∧
      (Draft.ofNode node).outline { o with tagsWithWhitespacePreserved := .uniform true } p.draft =
        .ok (some (node.flat o)) := by
  intro o node p
  have h : node.staysFlat o.attributesPerLine = true := by decide
  have hp : 0 < p.preDepth := by decide
  exact ⟨h, hp, Node.outline_preformatted_eq_flat o h (.uniform true) hp⟩

example : (Node.element "b" [("id", "")] [.text "\n", .text " x", .element "br" [] []]).flat .default =
    "<b id=\"\"> x<br /></b>".toList := by
  decide

end MarkupOutline
