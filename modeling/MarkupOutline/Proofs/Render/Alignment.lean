import MarkupOutline.Draft.WellFormed
import MarkupOutline.Proofs.Render.Markup
import MarkupOutline.Proofs.Render.Parts
import MarkupOutline.Proofs.Text.Margins

/-!
# Options that move no line

Of the six options only two lay out: the limit for attributes on one line and the preserved tags.
The other four change what is written in a line, but neither the number of lines nor the white space
that a line begins with. Two outlines under options that agree on the two are aligned piece by piece
(`Node.aligned_outline`). The pieces that differ are text, whose lines keep their margins when they
are escaped, and tags. In a tag an empty value, a bracket and an end tag right behind it begin
visibly, or stand on a line that shows something already, so they belong to no margin.

The tree has to be without names that break lines, since such a name is written twice or once
depending on the end tag, and without void elements and shapes that have children, since these
children are written under some options only.
-/

namespace MarkupOutline

open Text

/-! ## Trees whose lines do not depend on the options -/

mutual

/-- Whether no name of a tag or an attribute in a tree has a line feed, and void elements and shapes
have no children. -/
def Node.isSteadfast : Node → Bool
  | .text _ => true
  | .comment _ => true
  | .element tag attributes children =>
    !tag.toList.contains '\n' && (attributes.all fun a => !a.1.toList.contains '\n') &&
      (!((Kind.ofName tag).void || (Kind.ofName tag).shape) || children.isEmpty) &&
      areSteadfast children

/-- Whether this holds of all trees side by side. -/
def areSteadfast : List Node → Bool
  | [] => true
  | node :: more => node.isSteadfast && areSteadfast more

end

/-- Two options that lay out in the same way. -/
structure Options.LayAlike (o o' : Options) : Prop where
  attributesPerLine : o.attributesPerLine = o'.attributesPerLine
  preserved : o.tagsWithWhitespacePreserved = o'.tagsWithWhitespacePreserved

/-- Options that lay out alike preserve the same tags. -/
theorem Options.LayAlike.preserves_eq {o o' : Options} (h : o.LayAlike o') (tag : String) :
    o.preserves tag = o'.preserves tag := by
  rw [Options.preserves, Options.preserves, h.preserved]

namespace Layout

variable {o o' : Options}

/-! ## Text -/

/-- Text is aligned, whether it is escaped or not. -/
theorem aligned_text (o o' : Options) (indent : Int) (verbatim : Bool) (value : List Char) :
    Aligned (text o indent verbatim value) (text o' indent verbatim value) := by
  have hwritten (s : List Char) : Aligned (if o.escapeInnerText then escape s else s)
      (if o'.escapeInnerText then escape s else s) := by
    split <;> split
    · exact Aligned.refl _
    · exact Aligned.escape s
    · exact (Aligned.escape s).symm
    · exact Aligned.refl _
  have htrim (b : Bool) (s : List Char) :
      trim (if b then escape s else s) = if b then escape (trim s) else trim s := by
    cases b with
    | true => exact trim_escape s
    | false => rfl
  unfold text
  split
  · exact Aligned.refl _
  · cases verbatim with
    | true => exact hwritten value
    | false =>
      simp only [Bool.false_eq_true, if_false, htrim]
      exact (Aligned.refl _).append (hwritten (trim value))

/-! ## Tags -/

/-- An attribute adds the same margins behind any text, whether an empty value is written or
not. -/
theorem margins_append_attributeText (o o' : Options) (s name value : List Char) :
    margins (s ++ attributeText o name value) = margins (s ++ attributeText o' name value) := by
  have hempty (o : Options) : margins (s ++ attributeText o name []) = margins (s ++ name) := by
    rw [attributeText_eq, valuePart, ← List.append_assoc]
    split
    · -- The empty value begins visibly and has no line feed.
      have hvalue : StartsVisibly ('=' :: '"' :: [] ++ ['"']) := ⟨'=', _, rfl, by decide⟩
      have hmargins : (margins ('=' :: '"' :: [] ++ ['"'])).tail = [] := by decide
      rw [margins_append_of_startsVisibly _ hvalue, hmargins, List.append_nil]
    · rw [List.append_nil]
  cases value with
  | nil => rw [hempty, hempty]
  | cons c rest => rfl

/-- Two beginnings of a tag with the same margins, both with something on their last lines. -/
structure Level (s t : List Char) : Prop where
  margins : margins s = margins t
  left : ShowsLast s
  right : ShowsLast t

namespace Level

variable {s t : List Char}

/-- What has no line feed may differ. -/
theorem append (h : Level s t) {u v : List Char} (hu : '\n' ∉ u) (hv : '\n' ∉ v) :
    Level (s ++ u) (t ++ v) := by
  refine ⟨?_, h.left.append hu, h.right.append hv⟩
  rw [margins_append h.left, margins_append h.right, margins_of_not_mem hu, margins_of_not_mem hv,
    h.margins]
  rfl

/-- The same text that ends visibly may have line feeds. -/
theorem append_same (h : Level s t) {u : List Char} (hu : EndsVisibly u) :
    Level (s ++ u) (t ++ u) := by
  refine ⟨?_, (hu.append_left s).showsLast, (hu.append_left t).showsLast⟩
  rw [margins_append h.left, margins_append h.right, h.margins]

/-- An attribute on the line of its tag. -/
theorem attributeText (h : Level s t) {name : List Char} (hname : '\n' ∉ name) (value : List Char) :
    Level (s ++ ' ' :: Layout.attributeText o name value)
      (t ++ ' ' :: Layout.attributeText o' name value) := by
  cases value with
  | nil =>
    have hfeed (o : Options) : '\n' ∉ ' ' :: Layout.attributeText o name [] := by
      rw [attributeText_eq, valuePart]
      split <;> simp [hname]
    exact h.append (hfeed o) (hfeed o')
  | cons c rest =>
    have hsame : Layout.attributeText o name (c :: rest) =
        Layout.attributeText o' name (c :: rest) := rfl
    have hends : EndsVisibly (' ' :: Layout.attributeText o' name (c :: rest)) :=
      ⟨' ' :: (name ++ '=' :: '"' :: c :: rest), '"', by simp [Layout.attributeText], by decide⟩
    rw [hsame]
    exact h.append_same hends

/-- Attributes on the line of their tag. -/
theorem attributes (h : Level s t) {attributes : List (String × String)}
    (hnames : ∀ a ∈ attributes, '\n' ∉ a.1.toList) :
    Level (s ++ (attributeTexts o attributes).flatMap (' ' :: ·))
      (t ++ (attributeTexts o' attributes).flatMap (' ' :: ·)) := by
  induction attributes generalizing s t with
  | nil =>
    rw [attributeTexts, attributeTexts, List.map_nil, List.map_nil, List.flatMap_nil,
      List.append_nil, List.append_nil]
    exact h
  | cons a more ih =>
    obtain ⟨ha, hmore⟩ := List.forall_mem_cons.1 hnames
    have hfirst : Level (s ++ ' ' :: Layout.attributeText o a.1.toList a.2.toList)
        (t ++ ' ' :: Layout.attributeText o' a.1.toList a.2.toList) := h.attributeText ha _
    have hrest := ih hfirst hmore
    rw [List.append_assoc, List.append_assoc] at hrest
    exact hrest

end Level

/-- The margins of attributes on lines of their own. -/
theorem margins_wrapped (o o' : Options) (indent : Int) (attributes : List (String × String))
    (s : List Char) {t : List Char} (h : margins s = margins t) :
    margins (s ++ (attributeTexts o attributes).flatMap (newline (indent + 1) ++ ·)) =
      margins (t ++ (attributeTexts o' attributes).flatMap (newline (indent + 1) ++ ·)) := by
  induction attributes generalizing s t with
  | nil =>
    rw [attributeTexts, attributeTexts, List.map_nil, List.map_nil, List.flatMap_nil,
      List.append_nil, List.append_nil, h]
  | cons a more ih =>
    have hline : margins (s ++ (newline (indent + 1) ++ attributeText o a.1.toList a.2.toList)) =
        margins (t ++ (newline (indent + 1) ++ attributeText o' a.1.toList a.2.toList)) := by
      rw [newline, List.cons_append, List.cons_append, margins_append_newline,
        margins_append_newline, h, margins_append_attributeText o o']
    have hrest := ih _ hline
    simpa only [attributeTexts, List.map_cons, List.flatMap_cons, List.append_assoc] using hrest

/-- The bracket on a line of its own, with what follows it there, adds a margin that depends on the
depth only. -/
theorem margins_wrappedEnding (s : List Char) (indent : Int) (closed : Bool) {w : List Char}
    (hw : '\n' ∉ w) :
    margins (s ++ (newline indent ++ trim (bracket closed) ++ w)) =
      margins s ++ [margin (indentation indent)] := by
  have hbracket : StartsVisibly (trim (bracket closed)) ∧ '\n' ∉ trim (bracket closed) := by
    cases closed with
    | true => exact ⟨⟨'/', ['>'], by decide, by decide⟩, by decide⟩
    | false => exact ⟨⟨'>', [], by decide, by decide⟩, by decide⟩
  have hfeed : '\n' ∉ indentation indent ++ (trim (bracket closed) ++ w) := by
    rw [List.mem_append, List.mem_append, not_or, not_or]
    exact ⟨not_mem_indentation indent, hbracket.2, hw⟩
  rw [newline, List.cons_append, List.cons_append, List.append_assoc, margins_append_newline,
    margins_of_not_mem hfeed, margin_append_of_startsVisibly _ (hbracket.1.append_right w)]

/-- A tag has the same margins under options that lay out alike, however its bracket and what
follows it on its line are written. -/
theorem margins_tag (h : o.LayAlike o') (indent : Int) {tag : List Char} (htag : '\n' ∉ tag)
    {attributes : List (String × String)} (hnames : ∀ a ∈ attributes, '\n' ∉ a.1.toList)
    (closed closed' : Bool) {w w' : List Char} (hw : '\n' ∉ w) (hw' : '\n' ∉ w') :
    margins ('<' :: tag ++ (attributeList o indent closed (attributeTexts o attributes) ++ w)) =
      margins
        ('<' :: tag ++ (attributeList o' indent closed' (attributeTexts o' attributes) ++ w')) := by
  rw [attributeList_eq, attributeList_eq, h.attributesPerLine, List.append_assoc, List.append_assoc,
    ← List.append_assoc, ← List.append_assoc ('<' :: tag)]
  cases decide (o'.attributesPerLine < attributes.length) with
  | true =>
    -- Every attribute begins a line, and so does the bracket with what is right behind it.
    have hlines := margins_wrapped o o' indent attributes ('<' :: tag) rfl
    rw [gap, ending, margins_wrappedEnding _ _ _ hw, ending, margins_wrappedEnding _ _ _ hw',
      hlines]
  | false =>
    -- What differs is behind the visible start of the tag and has no part in a margin.
    have hname : ShowsLast ('<' :: tag) :=
      (EndsVisibly.showsLast (s := ['<']) ⟨[], '<', rfl, by decide⟩).append htag
    have hlevel : Level ('<' :: tag) ('<' :: tag) := ⟨rfl, hname, hname⟩
    have hbracket (closed : Bool) {w : List Char} (hw : '\n' ∉ w) : '\n' ∉ bracket closed ++ w := by
      rw [List.mem_append, not_or]
      exact ⟨by cases closed <;> decide, hw⟩
    exact ((hlevel.attributes hnames).append (hbracket closed hw) (hbracket closed' hw')).margins

/-- An open tag is aligned under options that lay out alike, however its bracket and the end tag
right behind it are written. -/
theorem aligned_tag (h : o.LayAlike o') (indent : Int) (inPre : Bool) {tag : List Char}
    (htag : '\n' ∉ tag) {attributes : List (String × String)}
    (hnames : ∀ a ∈ attributes, '\n' ∉ a.1.toList) (closed closed' : Bool) {e e' : EndTag}
    (he : e ≠ .ownLine) (he' : e' ≠ .ownLine) :
    Aligned
      (openTag indent inPre tag ++
        (attributeList o indent closed (attributeTexts o attributes) ++ e.write indent tag))
      (openTag indent inPre tag ++
        (attributeList o' indent closed' (attributeTexts o' attributes) ++
          e'.write indent tag)) := by
  have hfeed {e : EndTag} (he : e ≠ .ownLine) : '\n' ∉ e.write indent tag := by
    cases e with
    | absent => exact List.not_mem_nil
    | inline => simpa [EndTag.write] using htag
    | ownLine => exact absurd rfl he
  have hvisible (o : Options) (closed : Bool) (e : EndTag) :
      let s := '<' :: tag ++
        (attributeList o indent closed (attributeTexts o attributes) ++ e.write indent tag)
      StartsVisibly s ∧ EndsVisibly s := by
    refine ⟨⟨'<', _, rfl, by decide⟩, EndsVisibly.append_left ?_ _⟩
    have hlast : (attributeList o indent closed (attributeTexts o attributes) ++
        e.write indent tag).getLast? = some '>' := by
      rw [List.getLast?_append, getLast?_attributeList]
      cases he : e with
      | absent => rfl
      | inline => rw [getLast?_endTag (by decide), Option.some_or]
      | ownLine => rw [getLast?_endTag (by decide), Option.some_or]
    obtain ⟨front, hfront⟩ := List.getLast?_eq_some_iff.1 hlast
    exact ⟨front, '>', hfront, by decide⟩
  have htags := Aligned.of_margins (hvisible o closed e) (hvisible o' closed' e')
    (margins_tag h indent htag hnames closed closed' (hfeed he) (hfeed he'))
  rw [openTag, List.append_assoc, List.append_assoc]
  exact (Aligned.refl _).append htags

/-! ## End tags -/

/-- An element without children has its end tag right behind the open tag, if at all. -/
theorem endTag_ne_ownLine (o : Options) (kind : Kind) (preserved inPre : Bool) :
    endTag o kind preserved false inPre ≠ .ownLine := by
  intro h
  rw [endTag_eq_inline (by rw [h]; decide)] at h
  cases h

/-- The place of an end tag behind content depends on what lays out only. -/
theorem endTag_of_plain (o : Options) {kind : Kind} (hvoid : kind.void = false)
    (hshape : kind.shape = false) (preserved inPre : Bool) :
    endTag o kind preserved true inPre = if preserved || inPre then .inline else .ownLine := by
  simp [endTag, hvoid, hshape]

end Layout

/-! ## Trees -/

/-- An element without children is its open tag and what is right behind it. -/
theorem Node.outline_childless (o : Options) (p : Place String) (tag : String)
    (attributes : List (String × String)) :
    ∃ closed e, e ≠ Layout.EndTag.ownLine ∧
      (Node.element tag attributes []).outline o p =
        Layout.openTag p.indent p.inPre tag.toList ++
          (Layout.attributeList o p.indent closed (Layout.attributeTexts o attributes) ++
            e.write p.indent tag.toList) := by
  rw [Node.outline]
  dsimp only
  split
  · next hclosed =>
    refine ⟨true, .absent, by decide, ?_⟩
    rw [List.isEmpty_nil, Bool.not_true] at hclosed
    rw [List.isEmpty_nil, Bool.not_true, hclosed, List.append_assoc]
    rfl
  · refine ⟨Layout.closesItself o (.ofName tag) false, _, Layout.endTag_ne_ownLine o (.ofName tag)
      (o.preserves tag) (p.within tag).inPre, ?_⟩
    rw [outlines, List.nil_append, List.append_assoc]
    rfl

/-- An element with children that is neither void nor a shape is its open tag, its content and its
end tag. -/
theorem Node.outline_of_plain (o : Options) (p : Place String) {tag : String}
    (hvoid : (Kind.ofName tag).void = false) (hshape : (Kind.ofName tag).shape = false)
    (attributes : List (String × String)) (child : Node) (more : List Node) :
    (Node.element tag attributes (child :: more)).outline o p =
      Layout.openTag p.indent p.inPre tag.toList ++
          (Layout.attributeList o p.indent false (Layout.attributeTexts o attributes) ++
            Layout.EndTag.absent.write p.indent tag.toList) ++
        (outlines o (p.within tag) (child :: more) ++
          (if o.preserves tag || (p.within tag).inPre then Layout.EndTag.inline
            else Layout.EndTag.ownLine).write p.indent tag.toList) := by
  have hclosed : Layout.closesItself o (.ofName tag) true = false := by
    simp [Layout.closesItself, hvoid, hshape]
  rw [Node.outline]
  simp only [List.isEmpty_cons, Bool.not_false, hclosed, Bool.false_eq_true, if_false,
    Layout.endTag_of_plain o hvoid hshape, Layout.EndTag.write, List.append_nil]
  rfl

mutual

/-- A node is aligned at a place under options that lay out alike. -/
theorem Node.aligned_outline {o o' : Options} (h : o.LayAlike o') :
    ∀ (node : Node) (p : Place String), node.isSteadfast = true →
      Aligned (node.outline o p) (node.outline o' p)
  | .text value, p, _ => by
    rw [Node.outline, Node.outline, h.preserves_eq]
    exact Layout.aligned_text o o' _ _ _
  | .comment data, p, _ => by
    rw [Node.outline, Node.outline]
    exact Aligned.refl _
  | .element tag attributes [], p, hnode => by
    simp only [Node.isSteadfast, Bool.and_eq_true, Bool.not_eq_true', List.all_eq_true,
      List.contains_eq_mem, decide_eq_false_iff_not] at hnode
    obtain ⟨⟨⟨htag, hnames⟩, -⟩, -⟩ := hnode
    -- The two outlines may differ in whether the element closes itself or has an end tag at all.
    obtain ⟨closed, e, he, houtline⟩ := Node.outline_childless o p tag attributes
    obtain ⟨closed', e', he', houtline'⟩ := Node.outline_childless o' p tag attributes
    rw [houtline, houtline']
    exact Layout.aligned_tag h p.indent p.inPre htag hnames closed closed' he he'
  | .element tag attributes (child :: more), p, hnode => by
    simp only [Node.isSteadfast, Bool.and_eq_true, Bool.not_eq_true', List.all_eq_true,
      List.contains_eq_mem, decide_eq_false_iff_not, List.isEmpty_cons, Bool.or_false,
      Bool.or_eq_false_iff] at hnode
    obtain ⟨⟨⟨htag, hnames⟩, hvoid, hshape⟩, hchildren⟩ := hnode
    -- Being neither void nor a shape, the element has an open tag and an end tag on both sides.
    have habsent : Layout.EndTag.absent ≠ .ownLine := by decide
    have hopen := Layout.aligned_tag h p.indent p.inPre htag hnames false false habsent habsent
    have hcontent := aligned_outlines h (child :: more) (p.within tag) hchildren
    rw [Node.outline_of_plain o p hvoid hshape, Node.outline_of_plain o' p hvoid hshape,
      h.preserves_eq]
    exact hopen.append (hcontent.append (Aligned.refl _))

/-- Nodes side by side are aligned at a place under options that lay out alike. -/
theorem aligned_outlines {o o' : Options} (h : o.LayAlike o') :
    ∀ (nodes : List Node) (p : Place String), areSteadfast nodes = true →
      Aligned (outlines o p nodes) (outlines o' p nodes)
  | [], p, _ => by
    rw [outlines, outlines]
    exact Aligned.refl []
  | node :: more, p, hnodes => by
    rw [areSteadfast, Bool.and_eq_true] at hnodes
    rw [outlines, outlines]
    exact (Node.aligned_outline h node p hnodes.1).append (aligned_outlines h more p hnodes.2)

end

/-- Under any two options that agree on the limit for attributes on one line and on the preserved
tags, the renderings of a fragment have the same number of lines, and each line begins with the same
white space as the line that corresponds to it. -/
theorem margins_render_eq {o o' : Options} (hlimit : o.attributesPerLine = o'.attributesPerLine)
    (hpreserved : o.tagsWithWhitespacePreserved = o'.tagsWithWhitespacePreserved) {f : Fragment}
    (hf : areSteadfast f.children = true) :
    ∃ s t, (Draft.ofFragment f).render o = .ok s ∧ (Draft.ofFragment f).render o' = .ok t ∧
      (lines s.toList).length = (lines t.toList).length ∧
      (lines s.toList).map margin = (lines t.toList).map margin := by
  have halike : o.LayAlike o' := ⟨hlimit, hpreserved⟩
  have hmargins : margins (f.render o).toList = margins (f.render o').toList := by
    rw [Fragment.render, Fragment.render, String.toList_ofList, String.toList_ofList]
    exact (aligned_outlines halike f.children Place.topLevel hf).margins_trim
  refine ⟨_, _, Draft.render_ofFragment o f, Draft.render_ofFragment o' f, ?_, hmargins⟩
  have hlength := congrArg List.length hmargins
  rwa [margins, margins, List.length_map, List.length_map] at hlength

/-- A link with an empty attribute, text of two lines, a shape with wrapped attributes and a line
break in preformatted content, under options that differ in all that may differ. -/
theorem margins_render_link :
    let o := Options.default
    let o' : Options := ⟨false, .closingTag, true, 1, false, .only ["a", "pre"]⟩
    let f : Fragment := ⟨[.element "a" [("href", "")]
        [.text " x <\n  & y ", .element "path" [("id", ""), ("d", "1\n 2")] [], .element "b" [] []],
      .element "pre" [] [.text "\n ", .element "br" [] [], .text "z"]]⟩
    o.attributesPerLine = o'.attributesPerLine ∧
      o.tagsWithWhitespacePreserved = o'.tagsWithWhitespacePreserved ∧
      areSteadfast f.children = true ∧
      ∃ s t, (Draft.ofFragment f).render o = .ok s ∧ (Draft.ofFragment f).render o' = .ok t ∧
        (lines s.toList).length = (lines t.toList).length ∧
        (lines s.toList).map margin = (lines t.toList).map margin := by
  intro o o' f
  have hlimit : o.attributesPerLine = o'.attributesPerLine := rfl
  have hpreserved : o.tagsWithWhitespacePreserved = o'.tagsWithWhitespacePreserved := rfl
  have hf : areSteadfast f.children = true := by decide
  exact ⟨hlimit, hpreserved, hf, margins_render_eq hlimit hpreserved hf⟩

end MarkupOutline
