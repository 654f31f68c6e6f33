import Mathlib.Data.List.Chain
import MarkupOutline.Proofs.Render.Alignment
import MarkupOutline.Proofs.Render.Nesting

/-!
# The levels of the lines

With no tag preserved, a tidy fragment is written as lines that each have a level, which is the depth
that the indentation shows: the first and the last line are at level 0, and from one line to the next
the level changes by at most one (`render_levels`). A tree is tidy if it is without preformatted
elements, without content in elements that cannot have any, and without white space or line feeds
where they would be written out.

What carries the proof is that the pieces of an outline are walks through the levels. A node starts
and ends its walk at its own level, an element at level `k` has its attributes and its content at
level `k + 1`, and walks can be put together where their ends are near.
-/

namespace MarkupOutline

open Text

namespace Text

/-! ## Lines and levels -/

/-- What stands on a line behind its indentation: it is visible at both ends. -/
structure IsContent (s : List Char) : Prop where
  starts : StartsVisibly s
  ends : EndsVisibly s
  oneLine : '\n' ∉ s

/-- A line at a level: two spaces for each level, and behind them something that neither starts nor
ends with white space. -/
def IsAtLevel (level : Nat) (line : List Char) : Prop :=
  ∃ content, content ≠ [] ∧ IsTrimmed content ∧ line = List.replicate (2 * level) ' ' ++ content

/-- A line at a level shows something and does not end with white space. -/
theorem IsAtLevel.endsVisibly {level : Nat} {line : List Char} (h : IsAtLevel level line) :
    EndsVisibly line := by
  obtain ⟨content, hne, htrimmed, rfl⟩ := h
  exact (htrimmed.endsVisibly hne).append_left _

/-- Each line of a list of lines with levels is at one of them. -/
theorem exists_isAtLevel {levels : List Nat} {ls : List (List Char)}
    (h : List.Forall₂ IsAtLevel levels ls) : ∀ line ∈ ls, ∃ level, IsAtLevel level line := by
  induction h with
  | nil => exact nofun
  | @cons level line _ _ hline _ ih => exact List.forall_mem_cons.2 ⟨⟨level, hline⟩, ih⟩

/-- Content behind its indentation is a line at its level. -/
theorem IsContent.isAtLevel {content : List Char} (h : IsContent content) (level : Nat) :
    IsAtLevel level (List.replicate (2 * level) ' ' ++ content) := by
  refine ⟨content, ?_, h.starts.isTrimmed h.ends, rfl⟩
  obtain ⟨c, rest, rfl, -⟩ := h.starts
  exact List.cons_ne_nil c rest

/-- Content that is begun on a new line at a level is a line there. -/
theorem IsContent.startedLines_newline_append {content : List Char} (h : IsContent content)
    (level : Nat) :
    startedLines (newline level ++ content) = [List.replicate (2 * level) ' ' ++ content] := by
  have hfeed : '\n' ∉ indentation level ++ content := by
    rw [List.mem_append, not_or]
    exact ⟨not_mem_indentation level, h.oneLine⟩
  rw [newline, List.cons_append, startedLines_cons, lines_of_not_mem hfeed]
  rfl

/-! ## Walks through the levels -/

/-- Two levels that differ by at most one. -/
def Near (d e : Nat) : Prop := d ≤ e + 1 ∧ e ≤ d + 1

/-- A level is near itself. -/
theorem Near.refl (d : Nat) : Near d d := ⟨d.le_succ, d.le_succ⟩

/-- A level is near the one below it. -/
theorem Near.up (d : Nat) : Near d (d + 1) := ⟨by omega, le_rfl⟩

/-- A level is near the one above it. -/
theorem Near.down (d : Nat) : Near (d + 1) d := ⟨le_rfl, by omega⟩

/-- A text that consists of new lines, the first at level `d` and the last at level `e`, with near
levels from line to line. -/
inductive Walk : Nat → Nat → List Char → Prop
  | line {d : Nat} {content : List Char} (h : IsContent content) :
    Walk d d (newline d ++ content)
  | step {d e f : Nat} {content s : List Char} (h : IsContent content) (hnear : Near d e)
    (hs : Walk e f s) : Walk d f (newline d ++ content ++ s)

namespace Walk

variable {d e f g : Nat} {s t : List Char}

/-- A walk begins on a new line. -/
theorem startsLine (h : Walk d e s) : StartsLine s := by
  cases h with
  | line => exact .inr ⟨_, rfl⟩
  | step => exact .inr ⟨_, rfl⟩

/-- Two walks one after the other, from a level to a near one. -/
theorem append (hs : Walk d e s) (hnear : Near e f) (ht : Walk f g t) : Walk d g (s ++ t) := by
  induction hs with
  | line h => exact .step h hnear ht
  | step h hstep _ ih =>
    rw [List.append_assoc]
    exact .step h hstep (ih hnear)

/-- A walk whose last line goes on. -/
theorem append_right (h : Walk d e s) (hfeed : '\n' ∉ t) (hends : EndsVisibly t) :
    Walk d e (s ++ t) := by
  have hlonger {content : List Char} (hc : IsContent content) : IsContent (content ++ t) := by
    refine ⟨hc.starts.append_right t, hends.append_left content, ?_⟩
    rw [List.mem_append, not_or]
    exact ⟨hc.oneLine, hfeed⟩
  induction h with
  | line hc =>
    rw [List.append_assoc]
    exact .line (hlonger hc)
  | step hc hnear _ ih =>
    rw [List.append_assoc]
    exact .step hc hnear ih

/-- The lines of a walk have levels, which are near from line to line. -/
theorem exists_levels (h : Walk d e s) :
    ∃ levels : List Nat, List.Forall₂ IsAtLevel levels (startedLines s) ∧
      levels.head? = some d ∧ levels.getLast? = some e ∧ levels.IsChain Near := by
  induction h with
  | @line d content hc =>
    refine ⟨[d], ?_, rfl, rfl, List.isChain_singleton d⟩
    rw [hc.startedLines_newline_append]
    exact .cons (hc.isAtLevel d) .nil
  | @step d e f content s hc hnear hs ih =>
    obtain ⟨levels, hlevels, hhead, hlast, hchain⟩ := ih
    refine ⟨d :: levels, ?_, rfl, ?_, List.isChain_cons.2 ⟨?_, hchain⟩⟩
    · rw [startedLines_append _ hs.startsLine, hc.startedLines_newline_append]
      exact .cons (hc.isAtLevel d) hlevels
    · rw [List.getLast?_cons, hlast]
      rfl
    · intro e' he'
      rw [hhead] at he'
      rwa [← Option.some.inj he']

end Walk

/-- Nothing, or a walk from a level to itself. -/
def RoundTrip (k : Nat) (s : List Char) : Prop := s = [] ∨ Walk k k s

namespace RoundTrip

variable {k : Nat} {s t : List Char}

/-- Two round trips from the same level. -/
theorem append (hs : RoundTrip k s) (ht : RoundTrip k t) : RoundTrip k (s ++ t) := by
  obtain rfl | hs := hs
  · exact ht
  obtain rfl | ht := ht
  · rw [List.append_nil]
    exact .inr hs
  · exact .inr (hs.append (.refl k) ht)

/-- A round trip from one level below, between two walks. -/
theorem within {before after : List Char} (h : RoundTrip (k + 1) s) (hbefore : Walk k k before)
    (hafter : Walk k k after) : Walk k k (before ++ s ++ after) := by
  obtain rfl | h := h
  · rw [List.append_nil]
    exact hbefore.append (.refl k) hafter
  · exact (hbefore.append (.up k) h).append (.down k) hafter

end RoundTrip

end Text

/-! ## Tidy trees -/

/-- Whether a name can be written without white space: it has a character, and none is blank. -/
def isBare (name : List Char) : Bool := !name.isEmpty && name.all fun c => !isBlank c

mutual

/-- Whether a node is tidy: no preformatted element, no void element or shape with children, bare
names, and no line feeds in attribute values, in comments and inside of texts. -/
def Node.isTidy : Node → Bool
  | .text value => !(trim value.toList).contains '\n'
  | .comment data => !data.toList.contains '\n'
  | .element tag attributes children =>
    tag != preTag && isBare tag.toList &&
      (attributes.all fun (name, value) => isBare name.toList && !value.toList.contains '\n') &&
      (!((Kind.ofName tag).void || (Kind.ofName tag).shape) || children.isEmpty) &&
      areTidy children

/-- Whether all nodes side by side are tidy. -/
def areTidy : List Node → Bool
  | [] => true
  | node :: more => node.isTidy && areTidy more

end

/-- A bare name is visible at both ends and has no line feed. -/
theorem isContent_of_isBare {name : List Char} (h : isBare name = true) : IsContent name := by
  simp only [isBare, Bool.and_eq_true, Bool.not_eq_true', List.all_eq_true] at h
  obtain ⟨hne, hvisible⟩ := h
  have hne : name ≠ [] := by simpa using hne
  have htrimmed : IsTrimmed name :=
    ⟨fun c hc => hvisible c (List.mem_of_head? hc), fun c hc => hvisible c (List.mem_of_getLast? hc)⟩
  refine ⟨htrimmed.startsVisibly hne, htrimmed.endsVisibly hne, fun hfeed => ?_⟩
  exact absurd (hvisible '\n' hfeed) (by decide)

mutual

/-- The void elements in a tidy node have no children. -/
theorem Node.voidsChildless_of_isTidy : ∀ node : Node, node.isTidy = true →
    node.voidsChildless = true
  | .text _, _ => rfl
  | .comment _, _ => rfl
  | .element tag attributes children, h => by
    rw [Node.isTidy, Bool.and_eq_true, Bool.and_eq_true] at h
    obtain ⟨⟨-, hempty⟩, hchildren⟩ := h
    rw [Node.voidsChildless, voidsChildless_of_areTidy children hchildren, Bool.and_true]
    cases hvoid : (Kind.ofName tag).void with
    | false => rfl
    | true =>
      rw [hvoid, Bool.true_or] at hempty
      exact hempty

/-- The void elements in tidy nodes side by side have no children. -/
theorem voidsChildless_of_areTidy : ∀ nodes : List Node, areTidy nodes = true →
    voidsChildless nodes = true
  | [], _ => rfl
  | node :: more, h => by
    rw [areTidy, Bool.and_eq_true] at h
    rw [voidsChildless, Node.voidsChildless_of_isTidy node h.1, voidsChildless_of_areTidy more h.2]
    rfl

end

namespace Layout

/-! ## Parts of nodes -/

/-- Text on one line is a line at its level, unless it is not written. -/
theorem roundTrip_text (o : Options) (k : Nat) {value : List Char} (h : '\n' ∉ trim value) :
    RoundTrip k (text o k false value) := by
  unfold text
  split
  · exact .inl rfl
  · next hblank =>
    right
    have hne : trim value ≠ [] := fun hnil => hblank ((trim_eq_nil_iff value).1 hnil)
    have hstarts := (isTrimmed_trim value).startsVisibly hne
    have hends := (isTrimmed_trim value).endsVisibly hne
    simp only [Bool.false_eq_true, if_false]
    split
    · rw [trim_escape]
      refine .line ⟨startsVisibly_escape hstarts, endsVisibly_escape hends, fun hfeed => ?_⟩
      exact h (mem_of_mem_escape (by decide) hfeed)
    · exact .line ⟨hstarts, hends, h⟩

/-- A comment on one line is a line at its level. -/
theorem walk_comment (k : Nat) {data : List Char} (h : '\n' ∉ data) :
    Walk k k (comment k data) := by
  have hpayload : '\n' ∉ payload k data := by
    by_cases hblank : allBlank data = true
    · rw [payload, if_pos hblank]
      exact List.not_mem_nil
    · rw [payload_of_not_mem h hblank]
      simpa using fun hfeed => h (mem_of_mem_trim hfeed)
  rw [comment, List.append_assoc, List.append_assoc]
  refine .line ⟨⟨'<', _, rfl, by decide⟩, ?_, by simpa using hpayload⟩
  exact EndsVisibly.append_left (EndsVisibly.append_left ⟨['-', '-'], '>', rfl, by decide⟩ _) _

/-- An attribute is visible at both ends and on one line. -/
theorem isContent_attributeText (o : Options) {name value : List Char} (hname : IsContent name)
    (hvalue : '\n' ∉ value) : IsContent (attributeText o name value) := by
  unfold attributeText
  split
  · refine ⟨?_, ⟨_, '"', rfl, by decide⟩, ?_⟩
    · rw [List.append_assoc]
      exact hname.starts.append_right _
    · simpa using ⟨hname.oneLine, hvalue⟩
  · exact hname

/-- Attributes on the line of their tag do not end the line. -/
theorem walk_inline {texts : List (List Char)} (h : ∀ text ∈ texts, IsContent text) {d e : Nat}
    {s : List Char} (hs : Walk d e s) : Walk d e (s ++ texts.flatMap (' ' :: ·)) := by
  induction texts generalizing s with
  | nil =>
    rw [List.flatMap_nil, List.append_nil]
    exact hs
  | cons text more ih =>
    obtain ⟨htext, hmore⟩ := List.forall_mem_cons.1 h
    have hfirst : Walk d e (s ++ ' ' :: text) := by
      refine hs.append_right ?_ (htext.ends.append_left [' '])
      simpa using htext.oneLine
    rw [List.flatMap_cons, ← List.append_assoc]
    exact ih hmore hfirst

/-- Attributes on lines of their own leave the level of the tag for the next one. -/
theorem walk_wrapped {texts : List (List Char)} (h : ∀ text ∈ texts, IsContent text) {d e k : Nat}
    {s : List Char} (hs : Walk d e s) (he : e = k ∨ e = k + 1) :
    ∃ e', (e' = k ∨ e' = k + 1) ∧
      Walk d e' (s ++ texts.flatMap (newline (k + 1) ++ ·)) := by
  induction texts generalizing s e with
  | nil =>
    rw [List.flatMap_nil, List.append_nil]
    exact ⟨e, he, hs⟩
  | cons text more ih =>
    obtain ⟨htext, hmore⟩ := List.forall_mem_cons.1 h
    have hnear : Near e (k + 1) := by
      unfold Near
      omega
    have hfirst := hs.append hnear (.line htext)
    rw [List.flatMap_cons, ← List.append_assoc]
    exact ih hmore hfirst (.inr rfl)

/-- An open tag is a walk that ends where it starts. -/
theorem walk_tag (o : Options) (k : Nat) (closed : Bool) {tag : List Char} (htag : IsContent tag)
    {attributes : List (String × String)}
    (h : ∀ text ∈ attributeTexts o attributes, IsContent text) :
    Walk k k (openTag k false tag ++ attributeList o k closed (attributeTexts o attributes)) := by
  have hopen : Walk k k (openTag k false tag) := by
    refine .line ⟨⟨'<', tag, rfl, by decide⟩, htag.ends.append_left ['<'], ?_⟩
    simpa using htag.oneLine
  have hbracket : EndsVisibly (bracket closed) ∧ '\n' ∉ bracket closed := by
    cases closed with
    | true => exact ⟨⟨[' ', '/'], '>', rfl, by decide⟩, by decide⟩
    | false => exact ⟨⟨[], '>', rfl, by decide⟩, by decide⟩
  have htrimmed : IsContent (trim (bracket closed)) := by
    cases closed with
    | true => exact ⟨⟨'/', ['>'], by decide, by decide⟩, ⟨['/'], '>', by decide, by decide⟩, by decide⟩
    | false => exact ⟨⟨'>', [], by decide, by decide⟩, ⟨[], '>', by decide, by decide⟩, by decide⟩
  rw [attributeList_eq, ← List.append_assoc]
  cases decide (o.attributesPerLine < attributes.length) with
  | false => exact (walk_inline h hopen).append_right hbracket.2 hbracket.1
  | true =>
    obtain ⟨e, he, hattributes⟩ := walk_wrapped h hopen (.inl rfl)
    have hnear : Near e k := by
      unfold Near
      omega
    exact hattributes.append hnear (.line htrimmed)

/-- An end tag on a line of its own is at the level of its element. -/
theorem walk_endTag (k : Nat) {tag : List Char} (htag : IsContent tag) :
    Walk k k (EndTag.ownLine.write k tag) := by
  rw [EndTag.write, List.append_assoc]
  refine .line ⟨⟨'<', _, rfl, by decide⟩, ⟨_, '>', rfl, by decide⟩, ?_⟩
  simpa using htag.oneLine

end Layout

/-! ## Trees -/

/-- The attributes of a tidy element are visible at both ends and each on one line. -/
theorem isContent_of_mem_attributeTexts (o : Options) {attributes : List (String × String)}
    (h : (attributes.all fun (name, value) =>
      isBare name.toList && !value.toList.contains '\n') = true) :
    ∀ text ∈ Layout.attributeTexts o attributes, IsContent text := by
  intro text htext
  obtain ⟨⟨name, value⟩, ha, rfl⟩ := List.mem_map.1 htext
  have hattribute := List.all_eq_true.1 h (name, value) ha
  simp only [Bool.and_eq_true, Bool.not_eq_true', List.contains_eq_mem,
    decide_eq_false_iff_not] at hattribute
  exact Layout.isContent_attributeText o (isContent_of_isBare hattribute.1) hattribute.2

mutual

/-- A tidy node at level `k` is a round trip from that level. -/
theorem Node.roundTrip_outline {o : Options} (ho : ∀ tag, o.preserves tag = false) :
    ∀ (node : Node) {p : Place String} {k : Nat}, p.indent = k → p.inPre = false →
      node.isTidy = true → RoundTrip k (node.outline o p)
  | .text value, p, k, hk, hp, h => by
    rw [Node.isTidy, Bool.not_eq_true', List.contains_eq_mem, decide_eq_false_iff_not] at h
    rw [Node.outline, hk, hp, ho p.nearestTag]
    exact Layout.roundTrip_text o k h
  | .comment data, p, k, hk, _, h => by
    rw [Node.isTidy, Bool.not_eq_true', List.contains_eq_mem, decide_eq_false_iff_not] at h
    rw [Node.outline, hk]
    exact .inr (Layout.walk_comment k h)
  | .element tag attributes [], p, k, hk, hp, h => by
    simp only [Node.isTidy, Bool.and_eq_true] at h
    obtain ⟨⟨⟨⟨-, hbare⟩, hattributes⟩, -⟩, -⟩ := h
    have htag := isContent_of_isBare hbare
    have htexts := isContent_of_mem_attributeTexts o hattributes
    -- Whatever is behind the open tag stays on its last line.
    obtain ⟨closed, e, he, houtline⟩ := Node.outline_childless o p tag attributes
    rw [houtline, hk, hp, ← List.append_assoc]
    right
    have hopen := Layout.walk_tag o k closed htag htexts
    cases e with
    | absent =>
      rw [Layout.EndTag.write, List.append_nil]
      exact hopen
    | inline =>
      refine hopen.append_right ?_ ⟨_, '>', rfl, by decide⟩
      simpa [Layout.EndTag.write] using htag.oneLine
    | ownLine => exact absurd rfl he
  | .element tag attributes (child :: more), p, k, hk, hp, h => by
    simp only [Node.isTidy, Bool.and_eq_true, bne_iff_ne, List.isEmpty_cons, Bool.or_false,
      Bool.not_eq_true', Bool.or_eq_false_iff] at h
    obtain ⟨⟨⟨⟨hpre, hbare⟩, hattributes⟩, hvoid, hshape⟩, hchildren⟩ := h
    have htag := isContent_of_isBare hbare
    have htexts := isContent_of_mem_attributeTexts o hattributes
    have hnotVoid : tag ∉ voidNames := fun hmem => by
      rw [(Kind.void_ofName tag).2 hmem] at hvoid
      cases hvoid
    have hnotShape : tag ∉ shapeNames := fun hmem => by
      rw [(Kind.shape_ofName tag).2 hmem] at hshape
      cases hshape
    have hlaysOut : o.LaysOut tag := ⟨hpre, ho tag, hnotVoid, hnotShape⟩
    have hinner : (p.within tag).indent = (k + 1 : Nat) := by
      rw [Place.within, Place.enter, hk]
      rfl
    have hcontent := roundTrip_outlines ho (child :: more) hinner (hlaysOut.inPre_within hp) hchildren
    have hopen := Layout.walk_tag o k false htag htexts
    rw [hlaysOut.outline_element hp attributes (List.cons_ne_nil _ _), hk, hp]
    exact .inr (hcontent.within hopen (Layout.walk_endTag k htag))

/-- Tidy nodes side by side at level `k` are a round trip from that level. -/
theorem roundTrip_outlines {o : Options} (ho : ∀ tag, o.preserves tag = false) :
    ∀ (nodes : List Node) {p : Place String} {k : Nat}, p.indent = k → p.inPre = false →
      areTidy nodes = true → RoundTrip k (outlines o p nodes)
  | [], _, _, _, _, _ => .inl rfl
  | node :: more, p, k, hk, hp, h => by
    rw [areTidy, Bool.and_eq_true] at h
    rw [outlines]
    exact (Node.roundTrip_outline ho node hk hp h.1).append
      (roundTrip_outlines ho more hk hp h.2)

end

/-- Under options that preserve no tag, every line of a tidy fragment that is not rendered as nothing
is at a level. The first and the last line are at level 0, and the levels of two lines that follow
each other differ by at most one. So no line is blank or ends with white space. -/
theorem render_levels {o : Options} (ho : ∀ tag, o.preserves tag = false) {f : Fragment}
    (hf : areTidy f.children = true) :
    ∃ s, (Draft.ofFragment f).render o = .ok s ∧ (s ≠ "" →
      (∃ levels : List Nat, List.Forall₂ IsAtLevel levels (lines s.toList) ∧
        levels.head? = some 0 ∧ levels.getLast? = some 0 ∧ levels.IsChain Near) ∧
      ∀ line ∈ lines s.toList, allBlank line = false ∧ ∀ c ∈ line.getLast?, isBlank c = false) := by
  refine ⟨_, Draft.render_ofFragment o f, fun hne => ?_⟩
  have hstarted := renderedLines_render o (ho "") f (voidsChildless_of_areTidy f.children hf)
  rw [renderedLines, if_neg (by simpa using hne)] at hstarted
  have hwalk : Walk 0 0 (outlines o Place.topLevel f.children) := by
    refine (roundTrip_outlines ho f.children (k := 0) rfl rfl hf).resolve_left fun hnil => ?_
    rw [hnil] at hstarted
    exact lines_ne_nil _ hstarted
  obtain ⟨levels, hlevels, hhead, hlast, hchain⟩ := hwalk.exists_levels
  rw [← hstarted] at hlevels
  refine ⟨⟨levels, hlevels, hhead, hlast, hchain⟩, fun line hline => ?_⟩
  obtain ⟨level, hlevel⟩ := exists_isAtLevel hlevels line hline
  refine ⟨hlevel.endsVisibly.allBlank_eq, fun c hc => ?_⟩
  obtain ⟨front, d, rfl, hd⟩ := hlevel.endsVisibly
  rw [List.getLast?_concat] at hc
  rwa [← Option.some.inj hc]

/-- A division with wrapped attributes around blank text, a comment, a line break, a shape and a
paragraph. -/
theorem render_levels_division :
    let o : Options := { tagsWithWhitespacePreserved := .only [] }
    let f : Fragment := ⟨[.text "\n a < b ", .element "div" [("id", ""), ("class", " x  y ")]
      [.text " ", .comment " note ", .element "br" [] [], .element "path" [("d", "M 0 0")] [],
        .element "p" [] [.text "\n"]]]⟩
    (∀ tag, o.preserves tag = false) ∧ areTidy f.children = true ∧
      ∃ s, (Draft.ofFragment f).render o = .ok s ∧ (s ≠ "" →
        (∃ levels : List Nat, List.Forall₂ IsAtLevel levels (lines s.toList) ∧
          levels.head? = some 0 ∧ levels.getLast? = some 0 ∧ levels.IsChain Near) ∧
        ∀ line ∈ lines s.toList, allBlank line = false ∧
          ∀ c ∈ line.getLast?, isBlank c = false) := by
  intro o f
  have ho : ∀ tag, o.preserves tag = false := fun _ => rfl
  have hf : areTidy f.children = true := by decide
  exact ⟨ho, hf, render_levels ho hf⟩

end MarkupOutline
