import MarkupOutline.Proofs.Render.Blocks

/-!
# Locality of changes

A context is a list of nodes with a slot for one more node, at any depth. As long as every element
around the slot is laid out, the lines in front of the slot and the lines behind it do not depend on
the node in the slot, and the lines of that node depend on the rest of the tree through the depth of
the slot only.

The outline of a filled context is a text in front of the slot, the outline of the node and a text
behind it. The node and the text behind it begin on new lines if they are not empty, since the end
tags of the elements around the slot are on lines of their own, so the lines of the three parts stay
apart. Trimming the whole takes away the first line feed only.
-/

namespace MarkupOutline

open Text

/-! ## Contexts -/

/-- Nodes side by side with a slot among them or in the content of one of them. -/
inductive Context where
  /-- The slot is among the nodes. -/
  | slot (before after : List Node)
  /-- The slot is inside an element. -/
  | within (before : List Node) (tag : String) (attributes : List (String × String))
      (content : Context) (after : List Node)
  deriving Inhabited

namespace Context

/-- The nodes with a node in the slot. -/
def fill (node : Node) : Context → List Node
  | slot before after => before ++ node :: after
  | within before tag attributes content after =>
    before ++ .element tag attributes (content.fill node) :: after

/-- How many elements are around the slot. -/
def depth : Context → Nat
  | slot _ _ => 0
  | within _ _ _ content _ => content.depth + 1

/-- The tags of the elements around the slot, the outermost first. -/
def enclosing : Context → List String
  | slot _ _ => []
  | within _ tag _ content _ => tag :: content.enclosing

/-- Whether the void elements beside the slot have no children. -/
def voidsChildless : Context → Bool
  | slot before after => MarkupOutline.voidsChildless before && MarkupOutline.voidsChildless after
  | within before _ _ content after =>
    MarkupOutline.voidsChildless before && content.voidsChildless &&
      MarkupOutline.voidsChildless after

/-- The place of the slot where the nodes stand at `p`. -/
def place (p : Place String) : Context → Place String
  | slot _ _ => p
  | within _ tag _ content _ => content.place (p.within tag)

/-- What is written in front of the slot. -/
def opening (o : Options) (p : Place String) : Context → List Char
  | slot before _ => outlines o p before
  | within before tag attributes content _ =>
    outlines o p before ++ (Layout.openTag p.indent p.inPre tag.toList ++
      Layout.attributeList o p.indent false
        (attributes.map fun (name, value) => Layout.attributeText o name.toList value.toList)) ++
      content.opening o (p.within tag)

/-- What is written behind the slot. -/
def closing (o : Options) (p : Place String) : Context → List Char
  | slot _ after => outlines o p after
  | within _ tag _ content after =>
    content.closing o (p.within tag) ++ Layout.EndTag.ownLine.write p.indent tag.toList ++
      outlines o p after

/-- A filled context has a node. -/
theorem fill_ne_nil (node : Node) (c : Context) : c.fill node ≠ [] := by
  cases c <;> simp [fill]

end Context

/-! ## Elements around the slot -/

/-- A tag whose element is laid out: its text is trimmed, and it has an open tag and an end tag on
lines of their own whenever it has children. -/
structure Options.LaysOut (o : Options) (tag : String) : Prop where
  notPre : tag ≠ preTag
  notPreserved : o.preserves tag = false
  notVoid : tag ∉ voidNames
  notShape : tag ∉ shapeNames

namespace Options.LaysOut

variable {o : Options} {tag : String}

instance (o : Options) (tag : String) : Decidable (o.LaysOut tag) :=
  decidable_of_iff (tag ≠ preTag ∧ o.preserves tag = false ∧ tag ∉ voidNames ∧ tag ∉ shapeNames)
    ⟨fun ⟨h₁, h₂, h₃, h₄⟩ => ⟨h₁, h₂, h₃, h₄⟩, fun ⟨h₁, h₂, h₃, h₄⟩ => ⟨h₁, h₂, h₃, h₄⟩⟩

/-- The element is not void. -/
theorem void_eq_false (h : o.LaysOut tag) : (Kind.ofName tag).void = false :=
  Bool.eq_false_iff.2 fun hv => h.notVoid ((Kind.void_ofName tag).1 hv)

/-- The element is not a shape. -/
theorem shape_eq_false (h : o.LaysOut tag) : (Kind.ofName tag).shape = false :=
  Bool.eq_false_iff.2 fun hs => h.notShape ((Kind.shape_ofName tag).1 hs)

/-- The element does not close itself when it has children. -/
theorem closesItself_eq_false (h : o.LaysOut tag) :
    Layout.closesItself o (.ofName tag) true = false := by
  simp [Layout.closesItself, h.void_eq_false, h.shape_eq_false]

/-- The end tag of the element is on a line of its own when it has children. -/
theorem endTag_eq_ownLine (h : o.LaysOut tag) :
    Layout.endTag o (.ofName tag) (o.preserves tag) true false = .ownLine := by
  simp [Layout.endTag, h.void_eq_false, h.shape_eq_false, h.notPreserved]

/-- The element does not begin preformatted content. -/
theorem preDepth_within (h : o.LaysOut tag) {p : Place String} (hp : p.inPre = false) :
    (p.within tag).preDepth = p.preDepth := by
  simp [Place.within, Place.enter, h.notPre, hp]

/-- The content of the element is not preformatted if the element itself is not. -/
theorem inPre_within (h : o.LaysOut tag) {p : Place String} (hp : p.inPre = false) :
    (p.within tag).inPre = false := by
  rw [Place.inPre, h.preDepth_within hp]
  exact hp

/-- The outline of the element with some children. -/
theorem outline_element (h : o.LaysOut tag) {p : Place String} (hp : p.inPre = false)
    (attributes : List (String × String)) {children : List Node} (hne : children ≠ []) :
    (Node.element tag attributes children).outline o p =
      Layout.openTag p.indent p.inPre tag.toList ++
        Layout.attributeList o p.indent false
          (attributes.map fun (name, value) => Layout.attributeText o name.toList value.toList) ++
        outlines o (p.within tag) children ++
        Layout.EndTag.ownLine.write p.indent tag.toList := by
  have hchildren : (!children.isEmpty) = true := by simpa using hne
  rw [Node.outline]
  simp only [hchildren, h.closesItself_eq_false, h.inPre_within hp, h.endTag_eq_ownLine,
    Bool.false_eq_true, if_false, List.append_assoc]

end Options.LaysOut

/-- A node depends on its place through the depth, preformatting and whether the element around it
keeps white space. -/
theorem Node.outline_congr (o : Options) {p q : Place String} (hindent : p.indent = q.indent)
    (hpre : p.preDepth = q.preDepth) (hkeep : o.preserves p.nearestTag = o.preserves q.nearestTag)
    (node : Node) : node.outline o p = node.outline o q := by
  have hin : p.inPre = q.inPre := by rw [Place.inPre, Place.inPre, hpre]
  cases node with
  | text value => rw [Node.outline, Node.outline, hindent, hin, hkeep]
  | comment data => rw [Node.outline, Node.outline, hindent]
  | element tag attributes children =>
    -- The content of an element no longer shows where the element stands otherwise.
    have hwithin : p.within tag = q.within tag := by
      rw [Place.within, Place.within, Place.enter, Place.enter, hindent, hpre, hin]
    rw [Node.outline, Node.outline, hindent, hin, hwithin]

/-! ## Filled contexts -/

namespace Context

variable {o : Options}

/-- The outline of a filled context falls into three parts. -/
theorem outlines_fill (node : Node) : ∀ (c : Context) (p : Place String), p.inPre = false →
    (∀ tag ∈ c.enclosing, o.LaysOut tag) →
    outlines o p (c.fill node) =
      c.opening o p ++ node.outline o (c.place p) ++ c.closing o p
  | slot before after, p, _, _ => by
    rw [fill, outlines_append, outlines, opening, place, closing, List.append_assoc]
  | within before tag attributes content after, p, hp, htags => by
    have htag : o.LaysOut tag := htags tag (by simp [enclosing])
    have hcontent : ∀ t ∈ content.enclosing, o.LaysOut t := fun t ht =>
      htags t (by simp [enclosing, ht])
    have ih := outlines_fill node content (p.within tag) (htag.inPre_within hp) hcontent
    rw [fill, outlines_append, outlines, htag.outline_element hp attributes (fill_ne_nil _ _), ih,
      opening, place, closing]
    simp only [List.append_assoc]

/-- The place of the slot is as deep as the slot, and it is neither preformatted nor inside a tag
that keeps white space. -/
theorem place_spec : ∀ (c : Context) (p : Place String), p.inPre = false →
    o.preserves p.nearestTag = false → (∀ tag ∈ c.enclosing, o.LaysOut tag) →
    (c.place p).indent = p.indent + c.depth ∧ (c.place p).preDepth = p.preDepth ∧
      o.preserves (c.place p).nearestTag = false
  | slot before after, p, _, hkeep, _ => by
    simp [place, depth, hkeep]
  | within before tag attributes content after, p, hp, _, htags => by
    have htag : o.LaysOut tag := htags tag (by simp [enclosing])
    have hcontent : ∀ t ∈ content.enclosing, o.LaysOut t := fun t ht =>
      htags t (by simp [enclosing, ht])
    obtain ⟨hindent, hpre, hkeep⟩ :=
      place_spec content (p.within tag) (htag.inPre_within hp) htag.notPreserved hcontent
    rw [place, depth]
    refine ⟨?_, ?_, hkeep⟩
    · rw [hindent, Place.within, Place.enter]
      push_cast
      omega
    · rw [hpre, htag.preDepth_within hp]

/-- What is written behind the slot begins on a new line. -/
theorem startsLine_closing : ∀ (c : Context) (p : Place String), p.inPre = false →
    o.preserves p.nearestTag = false → (∀ tag ∈ c.enclosing, o.LaysOut tag) →
    c.voidsChildless = true → StartsLine (c.closing o p)
  | slot before after, p, hp, hkeep, _, hvoid => by
    rw [voidsChildless, Bool.and_eq_true] at hvoid
    exact (isBlock_outlines o p hp hkeep after hvoid.2).startsLine
  | within before tag attributes content after, p, hp, hkeep, htags, hvoid => by
    have htag : o.LaysOut tag := htags tag (by simp [enclosing])
    have hcontent : ∀ t ∈ content.enclosing, o.LaysOut t := fun t ht =>
      htags t (by simp [enclosing, ht])
    simp only [voidsChildless, Bool.and_eq_true] at hvoid
    have hinner := startsLine_closing content (p.within tag) (htag.inPre_within hp)
      htag.notPreserved hcontent hvoid.1.2
    have hafter := (isBlock_outlines o p hp hkeep after hvoid.2).startsLine
    rw [closing]
    exact (hinner.append (.inr ⟨_, rfl⟩)).append hafter

/-- A filled context has no void element with children if neither the context nor the node has. -/
theorem voidsChildless_fill (node : Node) (hnode : node.voidsChildless = true) :
    ∀ c : Context, (∀ tag ∈ c.enclosing, o.LaysOut tag) → c.voidsChildless = true →
      MarkupOutline.voidsChildless (c.fill node) = true
  | slot before after, _, hvoid => by
    rw [voidsChildless, Bool.and_eq_true] at hvoid
    rw [fill, voidsChildless_append, MarkupOutline.voidsChildless, hvoid.1, hnode, hvoid.2]
    rfl
  | within before tag attributes content after, htags, hvoid => by
    have htag : o.LaysOut tag := htags tag (by simp [enclosing])
    have hcontent : ∀ t ∈ content.enclosing, o.LaysOut t := fun t ht =>
      htags t (by simp [enclosing, ht])
    simp only [voidsChildless, Bool.and_eq_true] at hvoid
    have ih := voidsChildless_fill node hnode content hcontent hvoid.1.2
    rw [fill, voidsChildless_append, MarkupOutline.voidsChildless, Node.voidsChildless,
      htag.void_eq_false, hvoid.1.1, ih, hvoid.2]
    rfl

end Context

/-! ## Lines of the rendering -/

/-- The lines of a rendering. An empty one has none. -/
def renderedLines (s : String) : List (List Char) := if s.isEmpty then [] else lines s.toList

/-- The lines of a rendered fragment are those that begin in its outline. -/
theorem renderedLines_render (o : Options) (htop : o.preserves "" = false) (f : Fragment)
    (h : voidsChildless f.children = true) :
    renderedLines (f.render o) = startedLines (outlines o Place.topLevel f.children) := by
  have hrender := f.toList_render o htop h
  have hblock : IsBlock 0 (outlines o Place.topLevel f.children) :=
    isBlock_outlines o Place.topLevel rfl htop f.children h
  have hempty : (f.render o).isEmpty = true ↔ (f.render o).toList = [] := by
    rw [String.isEmpty_iff, ← String.toList_inj]
    rfl
  rw [renderedLines]
  obtain hnil | ⟨t, hne, -, ht⟩ := hblock
  · rw [hnil] at hrender
    rw [if_pos (hempty.2 hrender), hnil]
    rfl
  · rw [ht] at hrender
    have hlist : (f.render o).toList = t := hrender
    rw [if_neg (fun he => hne (hlist.symm.trans (hempty.1 he))), hlist, ht]
    exact (startedLines_cons t).symm

/-- Under options that do not keep white space at the top level, the lines of a rendered fragment
with a slot are those in front of the slot, those of the node in it and those behind it, where the
elements around the slot are laid out and void elements have no children. The lines of the node
depend on the node and the depth of the slot, and the other lines do not depend on the node. -/
theorem renderedLines_fill (o : Options) (htop : o.preserves "" = false) :
    ∃ linesOf : Nat → Node → List (List Char), ∀ c : Context,
      (∀ tag ∈ c.enclosing, o.LaysOut tag) → c.voidsChildless = true →
      ∃ before after : List (List Char), ∀ node : Node, node.voidsChildless = true →
        renderedLines (Fragment.render o ⟨c.fill node⟩) =
          before ++ linesOf c.depth node ++ after := by
  refine ⟨fun depth node => startedLines (node.outline o ⟨depth, "", 0⟩), ?_⟩
  intro c htags hvoid
  refine ⟨startedLines (c.opening o Place.topLevel), startedLines (c.closing o Place.topLevel), ?_⟩
  intro node hnode
  obtain ⟨hindent, hpre, hkeep⟩ := c.place_spec Place.topLevel rfl htop htags
  -- What the node contributes is the same wherever its depth is the same.
  have hplace : node.outline o (c.place Place.topLevel) = node.outline o ⟨c.depth, "", 0⟩ := by
    refine Node.outline_congr o (q := ⟨c.depth, "", 0⟩) ?_ hpre (hkeep.trans htop.symm) node
    rw [hindent]
    exact Int.zero_add _
  have hblock : IsBlock c.depth (node.outline o ⟨c.depth, "", 0⟩) :=
    Node.isBlock_outline o ⟨c.depth, "", 0⟩ rfl htop node hnode
  have hclosing := c.startsLine_closing Place.topLevel rfl htop htags hvoid
  have hfill := c.voidsChildless_fill node hnode htags hvoid
  rw [renderedLines_render o htop ⟨c.fill node⟩ hfill,
    c.outlines_fill node Place.topLevel rfl htags, hplace, startedLines_append _ hclosing,
    startedLines_append _ hblock.startsLine]

/-- In a division with a text, a slot and a line break, two nodes in the slot change the lines
between those of the text and those of the line break. -/
theorem renderedLines_fill_division :
    let c := Context.within [.comment "head"] "div" [("id", "x"), ("class", "y")]
      (.slot [.text "text"] [.element "br" [] []]) [.element "pre" [] [.text " a\n b"]]
    Options.default.preserves "" = false ∧ (∀ tag ∈ c.enclosing, Options.default.LaysOut tag) ∧
      c.voidsChildless = true ∧
      ∃ (linesOf : Node → List (List Char)) (before after : List (List Char)),
        renderedLines (Fragment.render .default ⟨c.fill (.text " ")⟩) =
            before ++ linesOf (.text " ") ++ after ∧
          renderedLines (Fragment.render .default ⟨c.fill (.element "a" [] [.text "one\ntwo "])⟩) =
            before ++ linesOf (.element "a" [] [.text "one\ntwo "]) ++ after := by
  intro c
  have htop : Options.default.preserves "" = false := by decide
  have htags : ∀ tag ∈ c.enclosing, Options.default.LaysOut tag := by decide
  have hvoid : c.voidsChildless = true := by decide
  obtain ⟨linesOf, h⟩ := renderedLines_fill Options.default htop
  obtain ⟨before, after, h⟩ := h c htags hvoid
  exact ⟨htop, htags, hvoid, linesOf c.depth, before, after, h _ (by decide), h _ (by decide)⟩

end MarkupOutline
