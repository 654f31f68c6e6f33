import MarkupOutline.Proofs.Render.Markup
import MarkupOutline.Proofs.Render.Parts
import MarkupOutline.Proofs.Render.Payload
import MarkupOutline.Proofs.Text.Unescaping

/-!
# Unambiguous outlines

Two fragments with the same rendering differ in insignificant white space only, as long as names are
ordinary and nothing in an attribute value or a comment ends it early. What is significant is made
explicit by a normal form: blank texts are dropped, text that is not verbatim is trimmed, elements
that close themselves lose their content, and comments have the payload that is written.

The outline alternates between text, in which no angle bracket occurs since it is escaped, and tags
or comments, which begin with one. Read from the front, the text up to the next bracket and the two
characters behind it decide what comes next, and then how much of the text is layout. So equal
outlines begin with equal nodes, followed by equal rests; the induction is over the first of the two
trees, with text that has not been compared yet carried along.
-/

namespace MarkupOutline

open Text

/-! ## Readable trees -/

mutual

/-- Whether a tree has ordinary names only, attribute values without double quotes, comments without
a closing delimiter inside, void elements without children, and no two texts side by side. -/
def Node.isReadable : Node → Bool
  | .text _ => true
  | .comment data => !decide (arrow <:+: data.toList)
  | .element tag attributes children =>
    Layout.isName tag && attributes.all Layout.isPlainAttribute &&
      (!(Kind.ofName tag).void || children.isEmpty) && areReadable children

/-- Whether trees side by side are readable. -/
def areReadable : List Node → Bool
  | [] => true
  | node :: more =>
    node.isReadable && !(node.isText && (headText more).isSome) && areReadable more

end

/-- Whether a fragment is readable. -/
def Fragment.isReadable (f : Fragment) : Bool := areReadable f.children

/-! ## Normal forms -/

mutual

/-- What is significant about a node at a place; nothing about blank text. -/
def Node.normal (o : Options) (p : Place String) : Node → List Node
  | .text value =>
    if allBlank value.toList then []
    else if p.inPre || o.preserves p.nearestTag then [.text value]
    else [.text (String.ofList (trim value.toList))]
  | .comment data => [.comment (String.ofList (Layout.payload p.indent data.toList))]
  | .element tag attributes children =>
    [.element tag attributes
      (if Layout.closesItself o (.ofName tag) (!children.isEmpty) then []
        else normals o (p.within tag) children)]

/-- What is significant about nodes side by side. -/
def normals (o : Options) (p : Place String) : List Node → List Node
  | [] => []
  | node :: more => node.normal o p ++ normals o p more

end

/-- The normal form of a fragment. -/
def Fragment.normal (o : Options) (f : Fragment) : Fragment :=
  ⟨normals o Place.topLevel f.children⟩

/-! ## Text in front of the next tag -/

section Text

variable {o : Options} {p : Place String}

/-- The outline of text that may be missing. -/
def textOutline (o : Options) (p : Place String) (t : Option String) : List Char :=
  t.elim [] fun value => (Node.text value).outline o p

/-- The normal form of text that may be missing. -/
def textNormal (o : Options) (p : Place String) (t : Option String) : List Node :=
  t.elim [] fun value => (Node.text value).normal o p

/-- The normal form of a text consists of the characters that are written, without the line break in
front of them. -/
theorem Node.normal_text (value : String) :
    (Node.text value).normal o p =
      if (Layout.writtenText o p value.toList).isEmpty then []
      else [.text (String.ofList ((Layout.writtenText o p value.toList).drop
        (if p.keepsText o then 0 else (newline p.indent).length)))] := by
  rw [Node.normal]
  split
  · next hblank => rw [(writtenText_eq_nil_iff _).2 hblank]; rfl
  · next hblank =>
    have hwritten : (Layout.writtenText o p value.toList).isEmpty = false := by
      rw [List.isEmpty_eq_false_iff]
      exact fun hnil => hblank ((writtenText_eq_nil_iff _).1 hnil)
    rw [hwritten, Layout.writtenText, if_neg hblank, Place.keepsText]
    split
    · next hkeep => simp
    · next hkeep => simp

/-- Texts that are written alike are alike in what is significant. -/
theorem textNormal_eq_of_textOutline_eq (hescape : o.escapeInnerText = true) {t u : Option String}
    (h : textOutline o p t = textOutline o p u) : textNormal o p t = textNormal o p u := by
  -- Missing text is written and counts like the empty text.
  have hmissing : ∀ v : Option String, textOutline o p v = textOutline o p (some (v.getD "")) ∧
      textNormal o p v = textNormal o p (some (v.getD "")) := by
    intro v
    cases v with
    | none => exact ⟨rfl, rfl⟩
    | some value => exact ⟨rfl, rfl⟩
  rw [(hmissing t).1, (hmissing u).1, textOutline, textOutline, Option.elim_some, Option.elim_some,
    Node.outline_text hescape, Node.outline_text hescape] at h
  rw [(hmissing t).2, (hmissing u).2, textNormal, textNormal, Option.elim_some, Option.elim_some,
    Node.normal_text, Node.normal_text, escape_injective h]

/-- No angle bracket occurs in written text. -/
theorem not_mem_textOutline (hescape : o.escapeInnerText = true) (t : Option String) :
    '<' ∉ textOutline o p t := by
  cases t with
  | none => exact List.not_mem_nil
  | some value =>
    rw [textOutline, Option.elim_some, Node.outline_text hescape]
    exact not_mem_escape _

/-- Nodes are written as the text that they begin with and the others. -/
theorem outlines_eq_textOutline_append (ns : List Node) :
    outlines o p ns = textOutline o p (headText ns) ++ outlines o p (dropText ns) := by
  unfold headText dropText
  split <;> rfl

/-- The normal form of nodes is that of the text that they begin with and that of the others. -/
theorem normals_eq_textNormal_append (ns : List Node) :
    normals o p ns = textNormal o p (headText ns) ++ normals o p (dropText ns) := by
  unfold headText dropText
  split <;> rfl

/-- In readable nodes no text follows the text that they begin with. -/
theorem readable_dropText {ns : List Node} (h : areReadable ns = true) :
    areReadable (dropText ns) = true ∧ headText (dropText ns) = none := by
  unfold dropText
  split
  · next value more =>
    simp only [areReadable, Node.isText, Bool.true_and, Bool.and_eq_true, Bool.not_eq_true'] at h
    exact ⟨h.2, by simpa using h.1.2⟩
  · next htext =>
    refine ⟨h, ?_⟩
    unfold headText
    split
    · next value more => exact absurd rfl (htext value more)
    · rfl

end Text

/-! ## Tags and comments -/

section Markup

variable {o : Options} {p : Place String}

/-- Behind its angle bracket a readable node does not look like an end tag. -/
theorem Node.body_append_ne_slash {node : Node} (h : node.isText = false)
    (hread : node.isReadable = true) (r s : List Char) : node.body o p ++ r ≠ '/' :: s := by
  intro heq
  cases node with
  | text value => cases h
  | comment data => exact absurd (List.cons.inj heq).1 (by decide)
  | element tag attributes children =>
    simp only [Node.isReadable, Bool.and_eq_true] at hread
    obtain ⟨c, rest, hname, hc, -⟩ := Layout.exists_cons_of_isName hread.1.1.1
    rw [Node.body, hname] at heq
    have : c = '/' := (List.cons.inj heq).1
    rw [this] at hc
    exact absurd hc (by decide)

/-- The end of content does not look like another tag or a comment. -/
theorem endsContent_ne_markup {a b r : List Char} (ha : '<' ∉ a) (hb : '<' ∉ b)
    (hr : EndsContent r) {node : Node} (h : node.isText = false) (hread : node.isReadable = true)
    (s : List Char) : a ++ r ≠ b ++ '<' :: (node.body o p ++ s) := by
  intro heq
  have hbracket : ∀ c ∈ ('<' :: (node.body o p ++ s)).head?, c = '<' := by
    intro c hc
    simpa using hc.symm
  obtain ⟨-, hrest⟩ := append_inj_of_bracket ha hb hr.head?_eq hbracket heq
  obtain rfl | ⟨rest, rfl⟩ := hr
  · cases hrest
  · exact Node.body_append_ne_slash h hread s rest (List.cons.inj hrest).2.symm

/-- Content that is written as nothing, an end tag being the first thing to be read, has nothing
significant. -/
theorem normals_eq_nil_of_endTag (hescape : o.escapeInnerText = true) {ns : List Node}
    (hread : areReadable ns = true) {gap r s : List Char} (hgap : '<' ∉ gap)
    (h : outlines o p ns ++ (gap ++ '<' :: '/' :: r) = '<' :: '/' :: s) :
    normals o p ns = [] ∧ r = s := by
  have htext := not_mem_textOutline (p := p) hescape (headText ns)
  obtain ⟨hdrop, hhead⟩ := readable_dropText hread
  rw [outlines_eq_textOutline_append] at h
  rw [normals_eq_textNormal_append]
  cases hns : dropText ns with
  | nil =>
    rw [hns, outlines, List.append_nil, ← List.append_assoc] at h
    obtain ⟨hnil, hrest⟩ := append_inj_of_bracket (b := []) (by simp [htext, hgap])
      List.not_mem_nil (EndsContent.head?_eq (.inr ⟨_, rfl⟩))
      (EndsContent.head?_eq (.inr ⟨_, rfl⟩)) h
    have hempty : textOutline o p (headText ns) = textOutline o p none :=
      (List.append_eq_nil_iff.1 hnil).1
    rw [textNormal_eq_of_textOutline_eq hescape hempty, normals]
    exact ⟨rfl, by simpa using hrest⟩
  | cons node more =>
    -- Another tag or a comment would have to be read first.
    rw [hns] at h hdrop hhead
    have hmarkup := isText_eq_false_of_headText hhead
    rw [areReadable, Bool.and_eq_true, Bool.and_eq_true] at hdrop
    rw [outlines, Node.outline_eq_lead_append hmarkup] at h
    simp only [List.append_assoc, List.cons_append] at h
    rw [← List.append_assoc] at h
    exact absurd h.symm (endsContent_ne_markup (a := []) List.not_mem_nil
      (by simp [htext, Node.not_mem_lead]) (.inr ⟨_, rfl⟩) hmarkup hdrop.1.1 _)

/-- Nodes that are alike in what is significant are set apart in the same way. -/
theorem Node.lead_eq_of_normal_eq {node node' : Node} (h : node.isText = false)
    (h' : node'.isText = false) (heq : node.normal o p = node'.normal o p) :
    node.lead p = node'.lead p := by
  cases node with
  | text value => cases h
  | comment data =>
    cases node' with
    | text value => cases h'
    | comment data' => rfl
    | element tag attributes children => simp [Node.normal] at heq
  | element tag attributes children =>
    cases node' with
    | text value => cases h'
    | comment data' => simp [Node.normal] at heq
    | element tag' attributes' children' => rfl

/-- A comment does not look like a tag. -/
theorem body_comment_append_ne (data tag : String) (attributes : List (String × String))
    (children : List Node) (hread : (Node.element tag attributes children).isReadable = true)
    (r s : List Char) :
    (Node.comment data).body o p ++ r ≠ (Node.element tag attributes children).body o p ++ s := by
  intro heq
  simp only [Node.isReadable, Bool.and_eq_true] at hread
  obtain ⟨c, rest, hname, hc, -⟩ := Layout.exists_cons_of_isName hread.1.1.1
  rw [Node.body, Node.body, hname] at heq
  have : c = '!' := (List.cons.inj heq).1.symm
  rw [this] at hc
  exact absurd hc (by decide)

end Markup

/-! ## Equal outlines -/

section Content

variable {o : Options} {p : Place String}

/-- Nodes are read from their outline up to the end of the content they are in: whatever is written
in the same way is alike in what is significant. A text that has been read in front of them is
compared with them. -/
def ReadsBehind (o : Options) (p : Place String) (t : Option String) (ns : List Node) : Prop :=
  ∀ (ns' : List Node) (t' : Option String), areReadable ns' = true → headText ns' = none →
    ∀ gap r s, '<' ∉ gap → EndsContent r → EndsContent s →
      textOutline o p t ++ outlines o p ns ++ (gap ++ r) =
        textOutline o p t' ++ outlines o p ns' ++ (gap ++ s) →
      textNormal o p t ++ normals o p ns = textNormal o p t' ++ normals o p ns' ∧ r = s

/-- Where no text has been read before, the text that the other nodes begin with is that text. -/
theorem ReadsBehind.of_none {ns ns' : List Node} (h : ReadsBehind o p none ns)
    (hread' : areReadable ns' = true) {gap r s : List Char} (hgap : '<' ∉ gap)
    (hr : EndsContent r) (hs : EndsContent s)
    (heq : outlines o p ns ++ (gap ++ r) = outlines o p ns' ++ (gap ++ s)) :
    normals o p ns = normals o p ns' ∧ r = s := by
  obtain ⟨hdrop', hhead'⟩ := readable_dropText hread'
  rw [outlines_eq_textOutline_append ns'] at heq
  rw [normals_eq_textNormal_append ns']
  exact h (dropText ns') (headText ns') hdrop' hhead' gap r s hgap hr hs heq

/-- The content of an element and its end tag are read behind the open tag. -/
theorem content_append_inj (hescape : o.escapeInnerText = true) {tag : String}
    {children children' : List Node} (hcontent : ReadsBehind o (p.within tag) none children)
    (hread : areReadable children = true) (hread' : areReadable children' = true)
    (hvoid : (!(Kind.ofName tag).void || children.isEmpty) = true)
    (hvoid' : (!(Kind.ofName tag).void || children'.isEmpty) = true) {r s : List Char}
    (h : outlines o (p.within tag) children ++ ((Layout.endTag o (.ofName tag) (o.preserves tag)
          (!children.isEmpty) (p.within tag).inPre).write p.indent tag.toList ++ r) =
        outlines o (p.within tag) children' ++ ((Layout.endTag o (.ofName tag) (o.preserves tag)
          (!children'.isEmpty) (p.within tag).inPre).write p.indent tag.toList ++ s)) :
    normals o (p.within tag) children = normals o (p.within tag) children' ∧ r = s := by
  by_cases habsent : Layout.endTag o (.ofName tag) (o.preserves tag) (!children.isEmpty)
      (p.within tag).inPre = .absent
  · -- A void element without end tag has no content on either side.
    have habsent' := (endTag_eq_absent_iff _ (!children'.isEmpty)).1 habsent
    have hkind := Layout.void_of_endTag_eq_absent habsent
    have hnil : children = [] := by simpa [hkind] using hvoid
    have hnil' : children' = [] := by simpa [hkind] using hvoid'
    rw [habsent, habsent', hnil, hnil'] at h
    rw [hnil, hnil']
    exact ⟨rfl, h⟩
  · have habsent' := fun ha => habsent ((endTag_eq_absent_iff _ (!children'.isEmpty)).2 ha)
    rw [write_eq_endGap_append habsent, write_eq_endGap_append habsent'] at h
    simp only [List.append_assoc, List.cons_append] at h
    -- What stands in front of the end tag depends on whether there is content.
    by_cases hnil : children = [] <;> by_cases hnil' : children' = []
    · rw [hnil, hnil'] at h
      rw [hnil, hnil']
      have htail := List.append_cancel_left h
      exact ⟨rfl, by simpa using htail⟩
    · -- Content on one side only has nothing significant.
      simp only [hnil, List.isEmpty_nil, Bool.not_true] at h habsent
      rw [endTag_eq_inline habsent] at h
      obtain ⟨hnormal, htail⟩ :=
        normals_eq_nil_of_endTag hescape hread' (not_mem_endGap _ _) h.symm
      rw [hnil, hnormal]
      exact ⟨rfl, by simpa using htail.symm⟩
    · simp only [hnil', List.isEmpty_nil, Bool.not_true] at h habsent'
      rw [endTag_eq_inline habsent'] at h
      obtain ⟨hnormal, htail⟩ := normals_eq_nil_of_endTag hescape hread (not_mem_endGap _ _) h
      rw [hnil', hnormal]
      exact ⟨rfl, by simpa using htail⟩
    · have hsame : (!children.isEmpty) = (!children'.isEmpty) := by
        rw [List.isEmpty_eq_false_iff.2 hnil, List.isEmpty_eq_false_iff.2 hnil']
      rw [hsame] at h
      obtain ⟨hnormal, htail⟩ := hcontent.of_none hread' (not_mem_endGap _ _) (.inr ⟨_, rfl⟩)
        (.inr ⟨_, rfl⟩) h
      exact ⟨hnormal, by simpa using htail⟩

end Content

mutual

/-- Equal nodes are read from equal texts behind an angle bracket. -/
theorem Node.body_append_inj (o : Options) (hescape : o.escapeInnerText = true)
    (p : Place String) : (node : Node) → node.isReadable = true → node.isText = false →
      ∀ (node' : Node) (r s : List Char), node'.isReadable = true → node'.isText = false →
        node.body o p ++ r = node'.body o p ++ s →
        node.normal o p = node'.normal o p ∧ r = s
  | .text _, _, htext, _, _, _, _, _, _ => by cases htext
  | .comment _, _, _, .text _, _, _, _, htext, _ => by cases htext
  | .comment data, hread, _, .comment data', r, s, hread', _, h => by
    simp only [Node.isReadable, Bool.not_eq_true', decide_eq_false_iff_not] at hread hread'
    rw [Node.body, Node.body] at h
    have hcut : Layout.payload p.indent data.toList ++ arrow ++ r =
        Layout.payload p.indent data'.toList ++ arrow ++ s := by
      simpa using h
    obtain ⟨hpayload, hrest⟩ := append_arrow_inj (Layout.noArrow_payload p.indent hread)
      (Layout.noArrow_payload p.indent hread') hcut
    rw [Node.normal, Node.normal, hpayload]
    exact ⟨rfl, hrest⟩
  | .comment data, _, _, .element tag attributes children, r, s, hread', _, h =>
    absurd h (body_comment_append_ne data tag attributes children hread' r s)
  | .element _ _ _, _, _, .text _, _, _, _, htext, _ => by cases htext
  | .element tag attributes children, hread, _, .comment data, r, s, _, _, h =>
    absurd h.symm (body_comment_append_ne data tag attributes children hread s r)
  | .element tag attributes children, hread, _, .element tag' attributes' children', r, s,
      hread', _, h => by
    simp only [Node.isReadable, Bool.and_eq_true] at hread hread'
    obtain ⟨⟨⟨hname, hattributes⟩, hvoid⟩, hchildren⟩ := hread
    obtain ⟨⟨⟨hname', hattributes'⟩, hvoid'⟩, hchildren'⟩ := hread'
    rw [Node.body, Node.body] at h
    simp only [List.append_assoc] at h
    -- The open tag is read first: the name, the attributes, and whether the element closes itself.
    obtain ⟨htag, hrest⟩ := append_inj_of_stops (Layout.isNameChar_of_mem hname)
      (Layout.isNameChar_of_mem hname') (Layout.stops_attributeList o _ _ _ _)
      (Layout.stops_attributeList o _ _ _ _) h
    obtain rfl := String.toList_inj.1 htag
    obtain ⟨rfl, hclosed, hbehind⟩ :=
      Layout.attributeList_append_inj o hattributes hattributes' hrest
    rw [Node.normal, Node.normal, ← hclosed]
    rw [← hclosed] at hbehind
    split at hbehind
    · next hself =>
      rw [if_pos hself, if_pos hself]
      exact ⟨rfl, hbehind⟩
    · next hself =>
      have hcontent := outlines_append_inj o hescape (p.within tag) children hchildren none
        (.inl rfl)
      rw [List.append_assoc, List.append_assoc] at hbehind
      obtain ⟨hnormals, htail⟩ :=
        content_append_inj hescape hcontent hchildren hchildren' hvoid hvoid' hbehind
      rw [if_neg hself, if_neg hself, hnormals]
      exact ⟨rfl, htail⟩

/-- Equal nodes are read from equal texts up to the end of the content they are in. -/
theorem outlines_append_inj (o : Options) (hescape : o.escapeInnerText = true)
    (p : Place String) : (ns : List Node) → areReadable ns = true →
      ∀ t, (t = none ∨ headText ns = none) → ReadsBehind o p t ns
  | [], _, t, _ => by
    intro ns' t' hread' hhead' gap r s hgap hr hs h
    have htext := not_mem_textOutline (p := p) hescape
    cases ns' with
    | nil =>
      rw [outlines, List.append_nil, List.append_nil, ← List.append_assoc, ← List.append_assoc]
        at h
      obtain ⟨hcut, hrest⟩ := append_inj_of_bracket (by simp [htext, hgap])
        (by simp [htext, hgap]) hr.head?_eq hs.head?_eq h
      rw [textNormal_eq_of_textOutline_eq hescape (List.append_cancel_right hcut)]
      exact ⟨rfl, hrest⟩
    | cons node' more' =>
      -- The content ends on one side where a tag or a comment begins on the other.
      have hmarkup' := isText_eq_false_of_headText hhead'
      rw [areReadable, Bool.and_eq_true, Bool.and_eq_true] at hread'
      rw [outlines, outlines, Node.outline_eq_lead_append hmarkup'] at h
      simp only [List.append_nil, List.append_assoc, List.cons_append] at h
      rw [← List.append_assoc, ← List.append_assoc (textOutline o p t')] at h
      exact absurd h (endsContent_ne_markup (by simp [htext, hgap])
        (by simp [htext, Node.not_mem_lead]) hr hmarkup' hread'.1.1 _)
  | node :: more, hread, t, ht => by
    intro ns' t' hread' hhead' gap r s hgap hr hs h
    have htext := not_mem_textOutline (p := p) hescape
    rw [areReadable, Bool.and_eq_true, Bool.and_eq_true] at hread
    obtain ⟨⟨hnode, hadjacent⟩, hmore⟩ := hread
    cases hmarkup : node.isText with
    | true =>
      obtain ⟨value, rfl⟩ := Node.exists_eq_text hmarkup
      -- The text is carried along to the next tag or comment, or to the end.
      obtain rfl : t = none := ht.resolve_right (by simp [headText])
      have hhead : headText more = none := by simpa [Node.isText] using hadjacent
      rw [outlines, textOutline, Option.elim_none, List.nil_append] at h
      have hnormal := outlines_append_inj o hescape p more hmore (some value) (.inr hhead) ns' t'
        hread' hhead' gap r s hgap hr hs h
      rw [normals, textNormal, Option.elim_none, List.nil_append]
      exact hnormal
    | false =>
      rw [outlines, Node.outline_eq_lead_append hmarkup] at h
      cases ns' with
      | nil =>
        rw [outlines] at h
        simp only [List.append_nil, List.append_assoc, List.cons_append] at h
        rw [← List.append_assoc, ← List.append_assoc (textOutline o p t')] at h
        exact absurd h.symm (endsContent_ne_markup (by simp [htext, hgap])
          (by simp [htext, Node.not_mem_lead]) hs hmarkup hnode _)
      | cons node' more' =>
        have hmarkup' := isText_eq_false_of_headText hhead'
        rw [areReadable, Bool.and_eq_true, Bool.and_eq_true] at hread'
        obtain ⟨⟨hnode', -⟩, hmore'⟩ := hread'
        rw [outlines, Node.outline_eq_lead_append hmarkup'] at h
        simp only [List.append_assoc, List.cons_append] at h
        rw [← List.append_assoc, ← List.append_assoc (textOutline o p t')] at h
        -- Both sides are read up to the first bracket, then up to the end of the first node.
        obtain ⟨hfront, hbehind⟩ := append_inj_of_bracket (by simp [htext, Node.not_mem_lead])
          (by simp [htext, Node.not_mem_lead]) (by simp) (by simp) h
        obtain ⟨hnormal, hrest⟩ := Node.body_append_inj o hescape p node hnode hmarkup node' _ _
          hnode' hmarkup' (List.cons.inj hbehind).2
        -- Equal nodes are set apart by the same white space, so the texts in front are equal, too.
        rw [Node.lead_eq_of_normal_eq hmarkup hmarkup' hnormal] at hfront
        have htextNormal :=
          textNormal_eq_of_textOutline_eq hescape (List.append_cancel_right hfront)
        have hbehindNode := outlines_append_inj o hescape p more hmore none (.inl rfl)
        obtain ⟨hnormals, htail⟩ := hbehindNode.of_none hmore' hgap hr hs hrest
        rw [normals, normals, hnormal, hnormals, htextNormal]
        exact ⟨rfl, htail⟩

end

/-! ## Equal renderings -/

mutual

/-- Void elements in a readable tree have no children. -/
theorem Node.voidsChildless_of_isReadable : (node : Node) → node.isReadable = true →
    node.voidsChildless = true
  | .text _, _ => rfl
  | .comment _, _ => rfl
  | .element tag attributes children, h => by
    simp only [Node.isReadable, Bool.and_eq_true] at h
    rw [Node.voidsChildless, Bool.and_eq_true]
    exact ⟨h.1.2, voidsChildless_of_areReadable children h.2⟩

/-- Void elements in readable trees have no children. -/
theorem voidsChildless_of_areReadable : (nodes : List Node) → areReadable nodes = true →
    voidsChildless nodes = true
  | [], _ => rfl
  | node :: more, h => by
    simp only [areReadable, Bool.and_eq_true] at h
    rw [voidsChildless, Bool.and_eq_true]
    exact ⟨node.voidsChildless_of_isReadable h.1.1, voidsChildless_of_areReadable more h.2⟩

end

/-- Two readable fragments with the same rendering have the same normal form, where text is escaped
and text at the top level is not preserved: no two documents that differ in more than insignificant
white space share a rendering. -/
theorem Fragment.normal_eq_of_render_eq (o : Options) (hescape : o.escapeInnerText = true)
    (htop : o.preserves "" = false) (f g : Fragment) (hf : f.isReadable = true)
    (hg : g.isReadable = true) (h : f.render o = g.render o) : f.normal o = g.normal o := by
  have hvoid := voidsChildless_of_areReadable f.children hf
  have hvoid' := voidsChildless_of_areReadable g.children hg
  have htail := congrArg String.toList h
  rw [Fragment.toList_render o htop f hvoid, Fragment.toList_render o htop g hvoid'] at htail
  have houtlines : outlines o Place.topLevel f.children = outlines o Place.topLevel g.children :=
    IsBlock.eq_of_tail_eq (isBlock_outlines o Place.topLevel rfl htop f.children hvoid)
      (isBlock_outlines o Place.topLevel rfl htop g.children hvoid') htail
  have hreads := outlines_append_inj o hescape Place.topLevel f.children hf none (.inl rfl)
  have hgap : '<' ∉ ([] : List Char) := List.not_mem_nil
  obtain ⟨hnormal, -⟩ := hreads.of_none hg hgap (.inl rfl) (.inl rfl) (by rw [houtlines])
  rw [Fragment.normal, Fragment.normal, hnormal]

/-- Two divisions that differ in white space around a text, a comment and a line break have the same
normal form. -/
theorem Fragment.normal_eq_division :
    let f : Fragment := ⟨[.element "div" [("class", "a b"), ("id", "")]
      [.text "\n  one < two\n", .element "br" [] [], .comment " note", .element "pre" []
        [.text " as\n is "]], .text "\n"]⟩
    let g : Fragment := ⟨[.text " ", .element "div" [("class", "a b"), ("id", "")]
      [.text "one < two", .element "br" [] [], .text "\t", .comment "note\t", .element "pre" []
        [.text " as\n is "]]]⟩
    Options.default.escapeInnerText = true ∧ Options.default.preserves "" = false ∧
      f.isReadable = true ∧ g.isReadable = true ∧ f.render .default = g.render .default ∧
      f.normal .default = g.normal .default := by
  intro f g
  have hescape : Options.default.escapeInnerText = true := rfl
  have htop : Options.default.preserves "" = false := by decide
  have hf : f.isReadable = true := by decide
  have hg : g.isReadable = true := by decide
  have hrender : f.render .default = g.render .default := by decide +kernel
  exact ⟨hescape, htop, hf, hg, hrender,
    Fragment.normal_eq_of_render_eq .default hescape htop f g hf hg hrender⟩

end MarkupOutline
