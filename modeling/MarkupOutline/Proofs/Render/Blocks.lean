import MarkupOutline.Proofs.Text.Escaping
import MarkupOutline.Proofs.Text.Lines
import MarkupOutline.Render.Outline

/-!
# How outlines begin and end

Outside of verbatim content a node contributes nothing, or a line feed, the indentation of its
depth, and a text that is visible at both ends. This shape, a block, is what makes lines belong to
nodes: it is kept when nodes stand side by side, and at the top level trimming the whole takes away
the first line feed and nothing else.

The one thing that could end blank is a void element with content, since it has no end tag behind
the content; hence the condition `voidsChildless`.
-/

namespace MarkupOutline

open Text

/-! ## Void elements without content -/

mutual

/-- Whether the void elements in a tree have no children. -/
def Node.voidsChildless : Node → Bool
  | .text _ => true
  | .comment _ => true
  | .element tag _ children =>
    (!(Kind.ofName tag).void || children.isEmpty) && voidsChildless children

/-- Whether the void elements in trees side by side have no children. -/
def voidsChildless : List Node → Bool
  | [] => true
  | node :: more => node.voidsChildless && voidsChildless more

end

/-- The void elements among nodes side by side have no children if they have none in each part. -/
@[simp] theorem voidsChildless_append (before after : List Node) :
    voidsChildless (before ++ after) = (voidsChildless before && voidsChildless after) := by
  induction before with
  | nil => simp [voidsChildless]
  | cons node more ih => simp [voidsChildless, ih, Bool.and_assoc]

/-- The outline of nodes side by side is that of the first of them and that of the others. -/
@[simp] theorem outlines_append (o : Options) (p : Place String) (before after : List Node) :
    outlines o p (before ++ after) = outlines o p before ++ outlines o p after := by
  induction before with
  | nil => rfl
  | cons node more ih => simp [outlines, ih]

/-! ## Blocks -/

/-- Nothing, or a text on new lines at a depth that ends visibly. -/
def IsBlock (indent : Int) (s : List Char) : Prop :=
  s = [] ∨ ∃ t, t ≠ [] ∧ IsTrimmed t ∧ s = newline indent ++ t

namespace IsBlock

variable {indent : Int} {s t : List Char}

/-- A block begins on a new line. -/
theorem startsLine (h : IsBlock indent s) : StartsLine s := by
  obtain rfl | ⟨u, -, -, rfl⟩ := h
  · exact .inl rfl
  · exact .inr ⟨_, rfl⟩

/-- Two blocks one after the other are a block. -/
theorem append (hs : IsBlock indent s) (ht : IsBlock indent t) : IsBlock indent (s ++ t) := by
  obtain rfl | ⟨u, hu, hut, rfl⟩ := hs
  · exact ht
  obtain rfl | ⟨v, hv, hvt, rfl⟩ := ht
  · exact .inr ⟨u, hu, hut, List.append_nil _⟩
  · refine .inr ⟨u ++ (newline indent ++ v), by simp [hu], ⟨?_, ?_⟩, List.append_assoc ..⟩
    · rw [List.head?_append_of_ne_nil _ hu]
      exact hut.1
    · rw [← List.append_assoc, List.getLast?_append_of_ne_nil _ hv]
      exact hvt.2

/-- At the top level trimming a block takes its first line feed. -/
theorem trim_eq_tail (h : IsBlock 0 s) : trim s = s.tail := by
  obtain rfl | ⟨u, -, hu, rfl⟩ := h
  · rfl
  · have htrim := trim_eq_of_isTrimmed (l := newline 0) (r := []) rfl rfl hu
    rw [List.append_nil] at htrim
    exact htrim

/-- A block at the top level can be told from what is behind its first character. -/
theorem eq_of_tail_eq (hs : IsBlock 0 s) (ht : IsBlock 0 t)
    (h : s.tail = t.tail) : s = t := by
  obtain rfl | ⟨u, hu, -, rfl⟩ := hs
  · obtain rfl | ⟨v, hv, -, rfl⟩ := ht
    · rfl
    · exact absurd h.symm hv
  · obtain rfl | ⟨v, hv, -, rfl⟩ := ht
    · exact absurd h hu
    · have huv : u = v := h
      rw [huv]

end IsBlock

/-! ## Parts of nodes -/

namespace Layout

/-- Character data that is not verbatim is a block. -/
theorem isBlock_text (o : Options) (indent : Int) (value : List Char) :
    IsBlock indent (text o indent false value) := by
  unfold text
  split
  · exact .inl rfl
  · next h =>
    refine .inr ⟨_, ?_, isTrimmed_trim _, rfl⟩
    intro hnil
    rw [trim_eq_nil_iff] at hnil
    cases hescape : o.escapeInnerText <;> simp_all

/-- A comment is a block. -/
theorem isBlock_comment (indent : Int) (data : List Char) :
    IsBlock indent (comment indent data) := by
  refine .inr ⟨"<!--".toList ++ payload indent data ++ "-->".toList, by simp, ⟨?_, ?_⟩, ?_⟩
  · intro c hc
    have : c = '<' := by simpa using hc.symm
    subst this
    rfl
  · intro c hc
    rw [Option.mem_def, List.getLast?_append] at hc
    have : c = '>' := (Option.some_inj.1 hc).symm
    subst this
    rfl
  · simp only [comment, List.append_assoc]

/-- The attributes of a tag end with its bracket. -/
theorem getLast?_attributeList (o : Options) (indent : Int) (closed : Bool)
    (written : List (List Char)) : (attributeList o indent closed written).getLast? = some '>' := by
  have hbracket : (bracket closed).getLast? = some '>' := by cases closed <;> rfl
  have htrimmed : (trim (bracket closed)).getLast? = some '>' := by cases closed <;> decide
  unfold attributeList
  split
  · exact hbracket
  · split
    · rw [List.getLast?_append, htrimmed, Option.some_or]
    · rw [List.getLast?_append, hbracket, Option.some_or]

/-- An end tag that is there ends with its bracket. -/
theorem getLast?_endTag {e : EndTag} (he : e ≠ .absent) (indent : Int) (tag : List Char) :
    (e.write indent tag).getLast? = some '>' := by
  cases e with
  | absent => exact absurd rfl he
  | inline => rw [EndTag.write, List.getLast?_concat]
  | ownLine => rw [EndTag.write, List.getLast?_concat]

/-- Only void elements do without an end tag. -/
theorem void_of_endTag_eq_absent {o : Options} {kind : Kind} {preserved hasChildren inPre : Bool}
    (h : endTag o kind preserved hasChildren inPre = .absent) : kind.void = true := by
  unfold endTag at h
  cases hvoid : kind.void
  · simp only [hvoid, Bool.false_and, Bool.false_eq_true, if_false] at h
    split at h <;> cases h
  · rfl

end Layout

/-! ## Nodes -/

/-- The outline of an element ends with a bracket. -/
theorem Node.getLast?_outline_element (o : Options) (p : Place String) (tag : String)
    (attributes : List (String × String)) (children : List Node)
    (h : (Node.element tag attributes children).voidsChildless = true) :
    ((Node.element tag attributes children).outline o p).getLast? = some '>' := by
  rw [Node.outline]
  simp only
  split
  · rw [List.append_nil, List.getLast?_append, Layout.getLast?_attributeList, Option.some_or]
  · by_cases he : Layout.endTag o (.ofName tag) (o.preserves tag) (!children.isEmpty)
        (p.within tag).inPre = .absent
    · -- Without an end tag the element is void and has no content.
      have hvoid := Layout.void_of_endTag_eq_absent he
      rw [Node.voidsChildless, hvoid, Bool.and_eq_true] at h
      have hempty : children = [] := by simpa using h.1
      rw [he, hempty, outlines, Layout.EndTag.write, List.append_nil, List.append_nil,
        List.getLast?_append, Layout.getLast?_attributeList, Option.some_or]
    · rw [List.getLast?_append, List.getLast?_append, Layout.getLast?_endTag he, Option.some_or,
        Option.some_or]

/-- Outside of preformatted content an element is a block. -/
theorem Node.isBlock_outline_element (o : Options) (p : Place String) (hp : p.inPre = false)
    (tag : String) (attributes : List (String × String)) (children : List Node)
    (h : (Node.element tag attributes children).voidsChildless = true) :
    IsBlock p.indent ((Node.element tag attributes children).outline o p) := by
  have hlast := Node.getLast?_outline_element o p tag attributes children h
  obtain ⟨rest, hrest⟩ : ∃ rest, (Node.element tag attributes children).outline o p =
      newline p.indent ++ '<' :: rest := by
    rw [Node.outline]
    simp only [Layout.openTag, hp, Bool.false_eq_true, if_false, List.append_assoc,
      List.cons_append]
    exact ⟨_, rfl⟩
  rw [hrest] at hlast ⊢
  refine .inr ⟨'<' :: rest, by simp, ⟨?_, ?_⟩, rfl⟩
  · intro c hc
    have : c = '<' := by simpa using hc.symm
    subst this
    rfl
  · intro c hc
    rw [List.getLast?_append, Option.mem_def.1 hc, Option.some_or, Option.some_inj] at hlast
    subst hlast
    rfl

/-- Outside of verbatim content a node is a block. -/
theorem Node.isBlock_outline (o : Options) (p : Place String) (hpre : p.inPre = false)
    (hkeep : o.preserves p.nearestTag = false) (node : Node) (h : node.voidsChildless = true) :
    IsBlock p.indent (node.outline o p) := by
  cases node with
  | text value =>
    rw [Node.outline, hpre, hkeep]
    exact Layout.isBlock_text o p.indent value.toList
  | comment data =>
    rw [Node.outline]
    exact Layout.isBlock_comment p.indent data.toList
  | element tag attributes children =>
    exact Node.isBlock_outline_element o p hpre tag attributes children h

/-- Outside of verbatim content nodes side by side are a block. -/
theorem isBlock_outlines (o : Options) (p : Place String) (hpre : p.inPre = false)
    (hkeep : o.preserves p.nearestTag = false) (nodes : List Node)
    (h : voidsChildless nodes = true) : IsBlock p.indent (outlines o p nodes) := by
  induction nodes with
  | nil => exact .inl rfl
  | cons node more ih =>
    rw [voidsChildless, Bool.and_eq_true] at h
    rw [outlines]
    exact (Node.isBlock_outline o p hpre hkeep node h.1).append (ih h.2)

/-- A fragment is rendered as the outline of its nodes without the first line feed, as long as text
at the top level is not verbatim. -/
theorem Fragment.toList_render (o : Options) (htop : o.preserves "" = false) (f : Fragment)
    (h : voidsChildless f.children = true) :
    (f.render o).toList = (outlines o Place.topLevel f.children).tail := by
  rw [Fragment.render, String.toList_ofList]
  exact (isBlock_outlines o Place.topLevel rfl htop f.children h).trim_eq_tail

end MarkupOutline
