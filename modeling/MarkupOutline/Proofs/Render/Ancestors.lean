import Mathlib.Data.List.Induction
import Mathlib.Data.List.TakeWhile
import MarkupOutline.Draft.WellFormed
import MarkupOutline.Render.Outline

/-!
# Layout from the tags around a node

The outline of a tree can be told from the enclosing tags alone. `Node.outlineUnder` carries no
counters: it is given the tags of the elements around a node, the outermost first, and reads the
indentation, the tag that decides about white space and preformatting off that list. It writes what
`Node.outline` writes (`Node.outline_under`), since the place that is reached by entering elements
one after the other records the length of the list, its last tag and how much of it lies in a
preformatted element (`Place.indent_under`, `Place.nearestTag_under`, `Place.preDepth_under`).

What stands beside a node is therefore written as if the node were not there, a preformatted element
not excepted (`render_eq_renderUnder`).
-/

namespace MarkupOutline

open Text

/-! ## Places under enclosing elements -/

/-- The place that is reached from the top level by entering elements with the given tags. -/
def Place.under (tags : List String) : Place String := tags.foldl Place.within Place.topLevel

namespace Place

/-- Entering one more element adds its tag at the end. -/
theorem within_under (tags : List String) (tag : String) :
    (under tags).within tag = under (tags ++ [tag]) := by
  rw [under, under, List.foldl_append, List.foldl_cons, List.foldl_nil]

/-- The depth of a place is the number of elements around it. -/
theorem indent_under (tags : List String) : (under tags).indent = tags.length := by
  induction tags using List.reverseRecOn with
  | nil => rfl
  | append_singleton tags tag ih =>
    have henter : ((under tags).within tag).indent = (under tags).indent + 1 := rfl
    rw [← within_under, henter, ih, List.length_append, List.length_singleton]
    rfl

/-- The nearest tag of a place is the last one, and the empty tag at the top level. -/
theorem nearestTag_under (tags : List String) : (under tags).nearestTag = tags.getLastD "" := by
  induction tags using List.reverseRecOn with
  | nil => rfl
  | append_singleton tags tag _ =>
    rw [← within_under, List.getLastD_concat]
    rfl

/-- The depth of preformatting counts the elements around a place from the first preformatted one
on. -/
theorem preDepth_under (tags : List String) :
    (under tags).preDepth = (tags.dropWhile (· ≠ preTag)).length := by
  induction tags using List.reverseRecOn with
  | nil => rfl
  | append_singleton tags tag ih =>
    have henter : ((under tags).within tag).preDepth =
        if decide (tag = preTag) || (under tags).inPre then (under tags).preDepth + 1
        else (under tags).preDepth := rfl
    rw [← within_under, henter, inPre, ih, List.dropWhile_append]
    cases hinside : tags.dropWhile (· ≠ preTag) with
    | nil =>
      -- No element around is preformatted, so the tag decides.
      by_cases htag : tag = preTag <;> simp [htag]
    | cons outer more => simp

/-- A place is preformatted exactly if the tag of preformatted content is among those around it. -/
theorem inPre_under (tags : List String) : (under tags).inPre = decide (preTag ∈ tags) := by
  rw [inPre, preDepth_under, Bool.eq_iff_iff, decide_eq_true_iff, decide_eq_true_iff,
    Int.natCast_pos, List.length_pos_iff, ne_eq, List.dropWhile_eq_nil_iff]
  simp

/-- The content of a preformatted element is preformatted. -/
theorem inPre_under_append_preTag (tags : List String) :
    (under (tags ++ [preTag])).inPre = true := by
  rw [inPre_under, decide_eq_true_iff]
  exact List.mem_append_right tags (List.mem_singleton_self preTag)

end Place

/-! ## Outlines without counters -/

/-- A new line under some elements: two spaces for each of them. -/
def lineUnder (tags : List String) : List Char := '\n' :: List.replicate (2 * tags.length) ' '

/-- A text under some elements. Blank text is not written. Text inside of a preformatted element and
text whose parent keeps white space are written as they stand, and other text is trimmed and on a
line of its own. -/
def textUnder (o : Options) (tags : List String) (value : List Char) : List Char :=
  if allBlank value then []
  else
    let written := if o.escapeInnerText then escape value else value
    if preTag ∈ tags ∨ o.preserves (tags.getLastD "") then written
    else lineUnder tags ++ trim written

/-- An end tag under some elements. Void elements have none unless end tags are asked for. It is on
a line of its own if there is content that is laid out in front of it. -/
def endTagUnder (o : Options) (tags : List String) (tag : String) (hasChildren : Bool) :
    List Char :=
  if tag ∈ voidNames ∧ o.voidElements ≠ .closingTag then []
  else if o.preserves tag ∨ hasChildren = false ∨
      (o.voidElements = .closingTag ∧ (tag ∈ voidNames ∨ tag ∈ shapeNames)) ∨
      preTag ∈ tags ++ [tag] then
    '<' :: '/' :: tag.toList ++ ['>']
  else lineUnder tags ++ '<' :: '/' :: tag.toList ++ ['>']

mutual

/-- What a node under elements with the given tags contributes to the output. -/
def Node.outlineUnder (o : Options) (tags : List String) : Node → List Char
  | .text value => textUnder o tags value.toList
  | .comment data =>
    lineUnder tags ++ "<!--".toList ++ Layout.payload tags.length data.toList ++ "-->".toList
  | .element tag attributes children =>
    let closed := Layout.closesItself o (.ofName tag) (!children.isEmpty)
    (if preTag ∈ tags then [] else lineUnder tags) ++ '<' :: tag.toList ++
      Layout.attributeList o tags.length closed
        (attributes.map fun (name, value) => Layout.attributeText o name.toList value.toList) ++
      if closed then []
      else outlinesUnder o (tags ++ [tag]) children ++ endTagUnder o tags tag (!children.isEmpty)

/-- What nodes side by side under elements with the given tags contribute. -/
def outlinesUnder (o : Options) (tags : List String) : List Node → List Char
  | [] => []
  | node :: more => node.outlineUnder o tags ++ outlinesUnder o tags more

end

/-- The outline of a fragment from the tags around its nodes. -/
def Fragment.renderUnder (o : Options) (f : Fragment) : String :=
  String.ofList (trim (outlinesUnder o [] f.children))

/-! ## Agreement -/

section Agreement

variable (o : Options) (tags : List String)

/-- A new line at the depth of a place has two spaces for each element around it. -/
theorem newline_indent_under : newline (Place.under tags).indent = lineUnder tags := by
  rw [Place.indent_under, newline, indentation, lineUnder, Int.toNat_natCast]

/-- A text is written as the tags around it say. -/
theorem text_under (value : List Char) :
    Layout.text o (Place.under tags).indent
      ((Place.under tags).inPre || o.preserves (Place.under tags).nearestTag) value =
      textUnder o tags value := by
  have hverbatim : ((Place.under tags).inPre || o.preserves (Place.under tags).nearestTag) = true ↔
      preTag ∈ tags ∨ o.preserves (tags.getLastD "") = true := by
    rw [Place.inPre_under, Place.nearestTag_under, Bool.or_eq_true, decide_eq_true_iff]
  rw [Layout.text, textUnder, newline_indent_under]
  simp only [hverbatim]

/-- An end tag is written as the tags around it say. -/
theorem endTag_under (tag : String) (hasChildren : Bool) :
    (Layout.endTag o (.ofName tag) (o.preserves tag) hasChildren
      ((Place.under tags).within tag).inPre).write (Place.under tags).indent tag.toList =
      endTagUnder o tags tag hasChildren := by
  have hinline : (o.preserves tag || !hasChildren ||
        ((o.voidElements == .closingTag) && ((Kind.ofName tag).void || (Kind.ofName tag).shape)) ||
        ((Place.under tags).within tag).inPre) = true ↔
      o.preserves tag = true ∨ hasChildren = false ∨
        (o.voidElements = .closingTag ∧ (tag ∈ voidNames ∨ tag ∈ shapeNames)) ∨
        preTag ∈ tags ++ [tag] := by
    rw [Place.within_under, Place.inPre_under]
    simp [Kind.void_ofName, Kind.shape_ofName, or_assoc]
  rw [Layout.endTag, endTagUnder]
  simp only [Layout.lacksEndTag_iff, hinline]
  split
  · rfl
  · split
    · rfl
    · rw [Layout.EndTag.write, newline_indent_under]

end Agreement

mutual

/-- A node contributes at a place what it contributes under the elements around the place. -/
theorem Node.outline_under (o : Options) : ∀ (node : Node) (tags : List String),
    node.outline o (Place.under tags) = node.outlineUnder o tags
  | .text value, tags => by
    rw [Node.outline, Node.outlineUnder, text_under]
  | .comment data, tags => by
    rw [Node.outline, Node.outlineUnder, Layout.comment, newline_indent_under, Place.indent_under]
  | .element tag attributes children, tags => by
    -- The children are one level deeper on both sides: a place entered, a tag added to the list.
    have hchildren := outlines_under o children (tags ++ [tag])
    have hopen : Layout.openTag (Place.under tags).indent (Place.under tags).inPre tag.toList =
        (if preTag ∈ tags then [] else lineUnder tags) ++ '<' :: tag.toList := by
      rw [Layout.openTag, newline_indent_under, Place.inPre_under]
      simp only [decide_eq_true_eq]
    rw [Node.outline, Node.outlineUnder]
    simp only [hopen, endTag_under]
    rw [Place.within_under, hchildren, Place.indent_under]

/-- Nodes side by side contribute at a place what they contribute under the elements around it. -/
theorem outlines_under (o : Options) : ∀ (nodes : List Node) (tags : List String),
    outlines o (Place.under tags) nodes = outlinesUnder o tags nodes
  | [], _ => rfl
  | node :: more, tags => by
    rw [outlines, outlinesUnder, Node.outline_under o node tags, outlines_under o more tags]

end

/-- Nodes side by side are written one after the other, whatever they are. -/
theorem outlinesUnder_append (o : Options) (tags : List String) (before after : List Node) :
    outlinesUnder o tags (before ++ after) =
      outlinesUnder o tags before ++ outlinesUnder o tags after := by
  induction before with
  | nil => rfl
  | cons node more ih => rw [List.cons_append, outlinesUnder, ih, outlinesUnder, List.append_assoc]

/-- A fragment is rendered as the tags around each of its nodes say. At every place, what stands
before and after a node is written as it is without that node, so that nothing is left of a
preformatted element, or of one that has preformatted content, in what follows it. -/
theorem render_eq_renderUnder (o : Options) :
    (∀ f : Fragment, (Draft.ofFragment f).render o = .ok (f.renderUnder o)) ∧
    ∀ (tags : List String) (before after : List Node) (node : Node),
      outlines o (Place.under tags) (before ++ node :: after) =
          outlinesUnder o tags before ++ node.outlineUnder o tags ++ outlinesUnder o tags after ∧
        outlines o (Place.under tags) (before ++ after) =
          outlinesUnder o tags before ++ outlinesUnder o tags after := by
  refine ⟨fun f => ?_, fun tags before after node => ⟨?_, ?_⟩⟩
  · have htop : outlines o Place.topLevel f.children = outlinesUnder o [] f.children :=
      outlines_under o f.children []
    rw [Draft.render_ofFragment, Fragment.render, Fragment.renderUnder, htop]
  · rw [outlines_under, outlinesUnder_append, outlinesUnder, List.append_assoc]
  · rw [outlines_under, outlinesUnder_append]

end MarkupOutline
