import MarkupOutline.Proofs.Render.Blocks
import MarkupOutline.Proofs.Text.Escaping
import MarkupOutline.Proofs.Text.Splitting

/-!
# Text and markup in an outline

An outline alternates between text, in which no angle bracket occurs since it is escaped, and tags
or comments, which begin with one. This module takes an outline apart in that way. Text is written
as the escaped form of some characters (`Layout.writtenText`); a tag or comment is written as its
lead, an angle bracket and its body (`Node.lead`, `Node.body`); and behind the content of an element
come a gap and an angle bracket again (`endGap`). Two outlines that are compared, or an outline that
is read, can therefore be cut at the first bracket.
-/

namespace MarkupOutline

open Text

/-! ## The text that nodes begin with -/

/-- The character data that nodes begin with. -/
def headText : List Node → Option String
  | .text value :: _ => some value
  | _ => none

/-- Nodes without the character data that they begin with. -/
def dropText : List Node → List Node
  | .text _ :: more => more
  | nodes => nodes

/-- Character data is a text node. -/
theorem Node.exists_eq_text {node : Node} (h : node.isText = true) :
    ∃ value, node = .text value := by
  cases node with
  | text value => exact ⟨value, rfl⟩
  | comment data => cases h
  | element tag attributes children => cases h

/-- Nodes that begin with no text begin with a tag or a comment. -/
theorem isText_eq_false_of_headText {node : Node} {more : List Node}
    (h : headText (node :: more) = none) : node.isText = false := by
  cases node with
  | text value => cases h
  | comment data => rfl
  | element tag attributes children => rfl

/-- Nodes that begin with a tag or a comment begin with no text. -/
theorem headText_eq_none_of_isText {node : Node} (h : node.isText = false) (more : List Node) :
    headText (node :: more) = none := by
  cases node with
  | text value => cases h
  | comment data => rfl
  | element tag attributes children => rfl

/-! ## Written text -/

/-- Whether text at a place is written as it stands. -/
def Place.keepsText (o : Options) (p : Place String) : Bool :=
  p.inPre || o.preserves p.nearestTag

/-- The characters that are written for a text at a place, before they are escaped. -/
def Layout.writtenText (o : Options) (p : Place String) (value : List Char) : List Char :=
  if allBlank value then []
  else if p.keepsText o then value
  else newline p.indent ++ trim value

section Text

variable {o : Options} {p : Place String}

/-- A line break and indentation are blank. -/
theorem allBlank_newline (indent : Int) : allBlank (newline indent) = true := by
  rw [newline, allBlank_cons, Bool.and_eq_true]
  refine ⟨by decide, ?_⟩
  rw [allBlank_iff]
  intro c hc
  rw [List.eq_of_mem_replicate hc]
  decide

/-- Escaping changes places with dropping blank text and with trimming. -/
theorem writtenText_escape (value : List Char) :
    Layout.writtenText o p (escape value) = escape (Layout.writtenText o p value) := by
  unfold Layout.writtenText
  rw [allBlank_escape]
  split
  · rfl
  · split
    · rfl
    · rw [trim_escape, escape_append, escape_of_allBlank (allBlank_newline p.indent)]

/-- A text is written as its characters escaped. -/
theorem Node.outline_text (hescape : o.escapeInnerText = true) (value : String) :
    (Node.text value).outline o p = escape (Layout.writtenText o p value.toList) := by
  rw [← writtenText_escape, Layout.writtenText, allBlank_escape, Node.outline, Layout.text, hescape]
  rfl

/-- Nothing is written for the empty text. -/
@[simp] theorem writtenText_nil : Layout.writtenText o p [] = [] := rfl

/-- Nothing is written for a text exactly when it is blank. -/
theorem writtenText_eq_nil_iff (value : List Char) :
    Layout.writtenText o p value = [] ↔ allBlank value = true := by
  unfold Layout.writtenText
  constructor
  · intro h
    split at h
    · assumption
    · split at h
      · rw [h, allBlank_nil]
      · cases h
  · intro h
    rw [if_pos h]

end Text

/-! ## Tags and comments -/

/-- What sets a tag or a comment apart from what stands in front of it. -/
def Node.lead (p : Place String) : Node → List Char
  | .text _ => []
  | .comment _ => newline p.indent
  | .element _ _ _ => if p.inPre then [] else newline p.indent

/-- A tag or a comment behind its first angle bracket, with everything that belongs to it. -/
def Node.body (o : Options) (p : Place String) : Node → List Char
  | .text _ => []
  | .comment data => '!' :: '-' :: '-' :: Layout.payload p.indent data.toList ++ arrow
  | .element tag attributes children =>
    let kind := Kind.ofName tag
    let hasChildren := !children.isEmpty
    let closed := Layout.closesItself o kind hasChildren
    let inner := p.within tag
    tag.toList ++ Layout.attributeList o p.indent closed
        (attributes.map fun (name, value) => Layout.attributeText o name.toList value.toList) ++
      if closed then []
      else
        outlines o inner children ++
          (Layout.endTag o kind (o.preserves tag) hasChildren inner.inPre).write p.indent tag.toList

/-- What sets an end tag apart from the content in front of it. -/
def endGap (indent : Int) : Layout.EndTag → List Char
  | .ownLine => newline indent
  | _ => []

/-- What sets the end tag of an element apart from its content, if there is an end tag. -/
def contentGap (o : Options) (p : Place String) (tag : String) (hasChildren : Bool) : List Char :=
  endGap p.indent
    (Layout.endTag o (.ofName tag) (o.preserves tag) hasChildren (p.within tag).inPre)

/-- What can follow the content of an element or of a fragment: an end tag or nothing. -/
def EndsContent (s : List Char) : Prop := s = [] ∨ ∃ rest, s = '<' :: '/' :: rest

section Markup

variable {o : Options} {p : Place String}

/-- A node that is no text is written as its lead, an angle bracket and its body. -/
theorem Node.outline_eq_lead_append {node : Node} (h : node.isText = false) :
    node.outline o p = node.lead p ++ '<' :: node.body o p := by
  cases node with
  | text value => cases h
  | comment data =>
    rw [Node.outline, Layout.comment, Node.lead, Node.body]
    simp [arrow]
  | element tag attributes children =>
    rw [Node.outline, Layout.openTag, Node.lead, Node.body]
    simp only [List.append_assoc, List.cons_append]

/-- A lead is blank. -/
theorem Node.allBlank_lead (node : Node) : allBlank (node.lead p) = true := by
  cases node with
  | text value => rfl
  | comment data => exact allBlank_newline _
  | element tag attributes children =>
    rw [Node.lead]
    split
    · rfl
    · exact allBlank_newline _

/-- No angle bracket occurs in a lead. -/
theorem Node.not_mem_lead (node : Node) : '<' ∉ node.lead p := by
  intro h
  exact absurd ((allBlank_iff _).1 node.allBlank_lead _ h) (by decide)

/-- A gap in front of an end tag is blank. -/
theorem allBlank_endGap (indent : Int) (e : Layout.EndTag) : allBlank (endGap indent e) = true := by
  cases e with
  | absent => rfl
  | inline => rfl
  | ownLine => exact allBlank_newline indent

/-- No angle bracket occurs in front of an end tag. -/
theorem not_mem_endGap (indent : Int) (e : Layout.EndTag) : '<' ∉ endGap indent e := by
  intro h
  exact absurd ((allBlank_iff _).1 (allBlank_endGap indent e) _ h) (by decide)

/-- An end tag that is there is written behind its gap. -/
theorem write_eq_endGap_append {e : Layout.EndTag} (he : e ≠ .absent) (indent : Int)
    (tag : List Char) : e.write indent tag = endGap indent e ++ '<' :: '/' :: (tag ++ ['>']) := by
  cases e with
  | absent => exact absurd rfl he
  | inline => rfl
  | ownLine => rw [Layout.EndTag.write, endGap, List.append_assoc]; rfl

/-- Without children an end tag that is there stands directly behind the open tag. -/
theorem endTag_eq_inline {kind : Kind} {preserved inPre : Bool}
    (he : Layout.endTag o kind preserved false inPre ≠ .absent) :
    Layout.endTag o kind preserved false inPre = .inline := by
  unfold Layout.endTag at he ⊢
  dsimp only at he ⊢
  split at he
  · exact absurd rfl he
  · next habsent => rw [if_neg habsent, if_pos (by simp)]

/-- The gap behind content is blank. -/
theorem allBlank_contentGap (tag : String) (hasChildren : Bool) :
    allBlank (contentGap o p tag hasChildren) = true := allBlank_endGap _ _

/-- There is no gap in front of the end tag of an element without children. -/
theorem contentGap_false (tag : String) : contentGap o p tag false = [] := by
  unfold contentGap
  by_cases he : Layout.endTag o (.ofName tag) (o.preserves tag) false (p.within tag).inPre = .absent
  · rw [he]
    rfl
  · rw [endTag_eq_inline he]
    rfl

/-- The end tag of an element with content stands directly behind the content where text is kept,
and on a line of its own anywhere else. -/
theorem contentGap_true {tag : String} (hvoid : (Kind.ofName tag).void = false)
    (hshape : (Kind.ofName tag).shape = false) :
    contentGap o p tag true = if (p.within tag).keepsText o then [] else newline p.indent := by
  have hkeep : (p.within tag).keepsText o = (o.preserves tag || (p.within tag).inPre) :=
    Bool.or_comm _ _
  rw [contentGap, Layout.endTag, hkeep]
  simp only [hvoid, hshape, Bool.false_and, Bool.not_true, Bool.or_false, Bool.and_false,
    Bool.false_eq_true, if_false]
  split <;> rfl

/-- Content is written between its open tag and its end tag, unless the element closes itself or
needs no end tag. -/
theorem Node.body_element {tag : String} {children : List Node}
    (hvoid : (Kind.ofName tag).void = false)
    (hclosed : Layout.closesItself o (.ofName tag) (!children.isEmpty) = false)
    (attributes : List (String × String)) :
    (Node.element tag attributes children).body o p =
      tag.toList ++ (Layout.attributeList o p.indent false
        (attributes.map fun (name, value) => Layout.attributeText o name.toList value.toList) ++
      (outlines o (p.within tag) children ++ (contentGap o p tag (!children.isEmpty) ++
        '<' :: '/' :: (tag.toList ++ ['>'])))) := by
  have hpresent : Layout.endTag o (.ofName tag) (o.preserves tag) (!children.isEmpty)
      (p.within tag).inPre ≠ .absent := by
    intro habsent
    rw [Layout.void_of_endTag_eq_absent habsent] at hvoid
    cases hvoid
  rw [Node.body]
  simp only [hclosed, Bool.false_eq_true, if_false]
  rw [write_eq_endGap_append hpresent, contentGap]
  simp only [List.append_assoc]

/-- Whether there is an end tag does not depend on the children. -/
theorem endTag_eq_absent_iff {kind : Kind} {preserved inPre : Bool}
    (hasChildren hasChildren' : Bool) :
    Layout.endTag o kind preserved hasChildren inPre = .absent ↔
      Layout.endTag o kind preserved hasChildren' inPre = .absent := by
  have habsent : ∀ b, Layout.endTag o kind preserved b inPre = .absent ↔
      (kind.void && !(o.voidElements == .closingTag)) = true := by
    intro b
    unfold Layout.endTag
    dsimp only
    split
    · next h => exact ⟨fun _ => h, fun _ => rfl⟩
    · next h =>
      refine ⟨fun hend => ?_, fun hv => absurd hv h⟩
      split at hend <;> cases hend
  rw [habsent, habsent]

/-! ## Cuts at an angle bracket -/

/-- A text without an angle bracket ends where one begins. -/
theorem append_inj_of_bracket {a b r s : List Char} (ha : '<' ∉ a) (hb : '<' ∉ b)
    (hr : ∀ c ∈ r.head?, c = '<') (hs : ∀ c ∈ s.head?, c = '<') (h : a ++ r = b ++ s) :
    a = b ∧ r = s := by
  have inside : ∀ {u : List Char}, '<' ∉ u → ∀ c ∈ u, (c != '<') = true := by
    intro u hu c hc
    rw [bne_iff_ne]
    rintro rfl
    exact hu hc
  have behind : ∀ {t : List Char}, (∀ c ∈ t.head?, c = '<') → Stops (· != '<') t := by
    intro t ht c hc
    rw [ht c hc]
    rfl
  exact append_inj_of_stops (inside ha) (inside hb) (behind hr) (behind hs) h

/-- Two texts that are cut at an angle bracket are equal if and only if their parts are. -/
theorem append_eq_append_iff_of_bracket {a b r s : List Char} (ha : '<' ∉ a) (hb : '<' ∉ b)
    (hr : ∀ c ∈ r.head?, c = '<') (hs : ∀ c ∈ s.head?, c = '<') :
    a ++ r = b ++ s ↔ a = b ∧ r = s := by
  refine ⟨append_inj_of_bracket ha hb hr hs, ?_⟩
  rintro ⟨rfl, rfl⟩
  rfl

/-- What can follow the content of an element begins with an angle bracket. -/
theorem EndsContent.head?_eq {s : List Char} (h : EndsContent s) : ∀ c ∈ s.head?, c = '<' := by
  obtain rfl | ⟨rest, rfl⟩ := h
  · simp
  · intro c hc
    simpa using hc.symm

end Markup

end MarkupOutline
