import MarkupOutline.Proofs.Reading.TextElements

/-!
# Reading outlines

An outline of trees in place is read back as the trees that `rereads` describes, with nothing else
left open or closed: `Node.reads_body` for one tag or comment and `reads_outlines` for nodes side by
side, by induction over the trees. The text in front of a tag or comment is read as one token with
the white space that sets the tag apart, so it is carried along until the next tag or comment, as it
is in `rereads`. An element of text without markup is read as a whole (`reads_body_text`).
-/

namespace MarkupOutline

open Text Html Html.Construction

/-! ## Characters that are read as they are written -/

section Steady

variable {o : Options} {p : Place String} {names : List String}

/-- White space stays in its place inside of every element. -/
theorem staysIn_of_space {c : Char} (hsteady : isSteady c = true) (hspace : isTableSpace c = true) :
    staysIn names c = true := by
  rw [staysIn, hsteady, hspace, Bool.or_true, Bool.true_and]

/-- A line break and the indentation behind it are read as they are written. -/
theorem staysIn_of_mem_newline {indent : Int} : ∀ c ∈ newline indent, staysIn names c = true := by
  intro c hc
  rcases List.mem_cons.1 hc with rfl | hc
  · exact staysIn_of_space (by decide) (by decide)
  · rw [List.eq_of_mem_replicate hc]
    exact staysIn_of_space (by decide) (by decide)

/-- A text is written with characters of its own, a line break and indentation. -/
theorem staysIn_of_mem_writtenText {value : List Char} (h : ∀ c ∈ value, staysIn names c = true) :
    ∀ c ∈ Layout.writtenText o p value, staysIn names c = true := by
  intro c hc
  unfold Layout.writtenText at hc
  split at hc
  · cases hc
  · split at hc
    · exact h c hc
    · rcases List.mem_append.1 hc with hc | hc
      · exact staysIn_of_mem_newline c hc
      · exact h c (mem_of_mem_trim hc)

/-- A text in which nothing is escaped is written with nothing escaped. -/
theorem escape_writtenText {value : List Char} (h : escape value = value) :
    escape (Layout.writtenText o p value) = Layout.writtenText o p value := by
  unfold Layout.writtenText
  split
  · rfl
  · split
    · exact h
    · rw [escape_append, escape_of_allBlank (allBlank_newline p.indent), ← trim_escape, h]

/-- What sets a tag or comment apart is read as it is written. -/
theorem staysIn_of_mem_lead (names : List String) (p : Place String) (node : Node) :
    ∀ c ∈ node.lead p, staysIn names c = true := by
  intro c hc
  cases node with
  | text value => cases hc
  | comment data => exact staysIn_of_mem_newline c hc
  | element tag attributes children =>
    rw [Node.lead] at hc
    split at hc
    · cases hc
    · exact staysIn_of_mem_newline c hc

/-- What sets an end tag apart is read as it is written. -/
theorem staysIn_of_mem_contentGap {tag : String} {hasChildren : Bool} :
    ∀ c ∈ contentGap o p tag hasChildren, staysIn names c = true := by
  intro c hc
  unfold contentGap at hc
  cases he : Layout.endTag o (.ofName tag) (o.preserves tag) hasChildren (p.within tag).inPre with
  | absent => rw [he] at hc; cases hc
  | inline => rw [he] at hc; cases hc
  | ownLine => rw [he] at hc; exact staysIn_of_mem_newline c hc

end Steady

/-! ## Trees -/

section Trees

variable {o : Options}

/-- The outline of an element that never has content is read back as that element. -/
theorem reads_body_empty {c : Construction} {f : Frame} {below : Stack} {ns : List Node}
    (h : c.Holds f below ns) {tag : String} {as : List (String × String)} (htag : IsTag tag as)
    (hstands : standsInPlace o (f.name :: below.names) tag = true) (p : Place String)
    (rest : List Char) :
    ∃ c', Reads ('<' :: ((Node.element tag as []).body o p ++ rest)) c rest c' ∧
      c'.Awaits f below (ns ++ [.element tag (as.map rereadAttribute) []]) ∧
      c'.dropNewline = false := by
  obtain ⟨c', hstep, hinserted, hdrop⟩ := h.contains.inserted htag hstands
    (Layout.closesItself o (.ofName tag) false)
  rw [h.keeps.1] at hdrop
  have hstart := h.startTag htag o p.indent (Layout.closesItself o (.ofName tag) false) hstep
  rw [Node.body]
  simp only [List.isEmpty_nil, Bool.not_true, outlines, List.nil_append, List.append_assoc]
  split
  · exact ⟨c', hstart rest, hinserted, hdrop⟩
  · cases he : Layout.endTag o (.ofName tag) (o.preserves tag) false (p.within tag).inPre with
    | absent => exact ⟨c', hstart rest, hinserted, hdrop⟩
    | ownLine =>
      have hinline := endTag_eq_inline (o := o) (by rw [he]; decide)
      rw [he] at hinline
      cases hinline
    | inline =>
      -- The end tag is read, and there is nothing that it ends.
      have hbr : tag ≠ "br" := by
        rintro rfl
        rw [Layout.endTag, closingTag_ne_of_standsInPlace hstands] at he
        cases he
      have hplaced := hinserted.orderly.placed_eq
      have hkeep := hinserted.orderly.congr c'.returnMode c'.pending false
      rw [← hinserted.contains.names_eq] at hstands
      have hstep : c'.placed.modeStep (.endTag tag) = .done { c' with dropNewline := false } := by
        rw [hplaced]
        exact hkeep.endStep_empty hstands hbr
      have hend := hinserted.holds.endTag htag.name hstep rest
      rw [Layout.EndTag.write]
      simp only [List.append_assoc, List.cons_append, List.nil_append]
      exact ⟨_, (hstart _).trans hend, ⟨hkeep, hinserted.top⟩, rfl⟩

/-- What can be the content of an element without markup is a text. -/
theorem exists_eq_text_of_isPlainText {tag : String} {node : Node}
    (h : node.isPlainText tag = true) : ∃ value, node = .text value := by
  cases node with
  | text value => exact ⟨value, rfl⟩
  | comment | element => cases h

/-- The content of an element without markup is one text, if there is any. -/
theorem eq_nil_or_text_of_isPlainText {names : List String} {tag : String} {children : List Node}
    (hall : children.all (Node.isPlainText tag) = true)
    (hplaced : arePlaced o names children = true) :
    children = [] ∨ ∃ value, children = [.text value] := by
  cases children with
  | nil => exact .inl rfl
  | cons node more =>
    rw [List.all_cons, Bool.and_eq_true] at hall
    obtain ⟨value, rfl⟩ := exists_eq_text_of_isPlainText hall.1
    cases more with
    | nil => exact .inr ⟨value, rfl⟩
    | cons next more =>
      -- Two texts side by side would be read back as one.
      rw [List.all_cons, Bool.and_eq_true] at hall
      obtain ⟨other, rfl⟩ := exists_eq_text_of_isPlainText hall.2.1
      simp [arePlaced, Node.isText, headText] at hplaced

/-- The content of an element without markup is one text that may be empty. -/
theorem exists_text_of_holdsTextInPlace (hescape : o.escapeInnerText = true) {names : List String}
    {tag : String} {children : List Node} (htext : holdsTextInPlace names tag children = true)
    (hplaced : arePlaced o (tag :: names) children = true) (p : Place String) :
    ∃ s, outlines o p children = escape s ∧ (∀ ch ∈ s, staysIn (tag :: names) ch = true) ∧
      (escapableTags.contains tag = true ∨ escape s = s) ∧
      ∀ drop gap, rereads o p drop [] gap children =
        textNodes (String.ofList (afterFeed drop (s ++ gap))) := by
  simp only [holdsTextInPlace, Bool.and_eq_true] at htext
  obtain ⟨⟨-, hall⟩, -⟩ := htext
  rcases eq_nil_or_text_of_isPlainText hall hplaced with rfl | ⟨value, rfl⟩
  · exact ⟨[], rfl, by simp, .inr rfl, fun _ _ => rfl⟩
  · simp only [arePlaced, Node.isPlaced, Bool.and_eq_true, List.all_eq_true] at hplaced
    rw [List.all_cons, Bool.and_eq_true, Node.isPlainText, Bool.or_eq_true,
      decide_eq_true_eq] at hall
    refine ⟨Layout.writtenText o p value.toList, ?_, staysIn_of_mem_writtenText hplaced.1.1,
      hall.1.imp id escape_writtenText, fun drop gap => ?_⟩
    · rw [outlines, outlines, List.append_nil, Node.outline_text hescape]
    · rw [rereads, rereads, List.nil_append]

/-- The outline of an element without markup is read back as that element with its text. -/
theorem reads_body_text (hescape : o.escapeInnerText = true) {c : Construction} {f : Frame}
    {below : Stack} {ns : List Node} (h : c.Holds f below ns) {tag : String}
    {as : List (String × String)} (htag : IsTag tag as) {children : List Node}
    (htext : holdsTextInPlace (f.name :: below.names) tag children = true)
    (hplaced : arePlaced o (tag :: f.name :: below.names) children = true)
    (hclosed : Layout.closesItself o (.ofName tag) (!children.isEmpty) = false) (p : Place String)
    (rest : List Char) :
    ∃ c', Reads ('<' :: ((Node.element tag as children).body o p ++ rest)) c rest c' ∧
      c'.Awaits f below (ns ++ [(Node.element tag as children).reread o p]) ∧
      c'.dropNewline = false := by
  obtain ⟨s, houtlines, hstays, hplain, hrereads⟩ :=
    exists_text_of_holdsTextInPlace hescape htext hplaced (p.within tag)
  have hgap := allBlank_contentGap (o := o) (p := p) tag (!children.isEmpty)
  -- The text and the gap in front of the end tag are read as one text.
  have hsteady : ∀ ch ∈ s ++ contentGap o p tag (!children.isEmpty), isSteady ch = true := by
    intro ch hch
    have hin := List.forall_mem_append.2 ⟨hstays, staysIn_of_mem_contentGap⟩ ch hch
    rw [staysIn, Bool.and_eq_true] at hin
    exact hin.1
  have hplain' : escapableTags.contains tag = true ∨
      escape (s ++ contentGap o p tag (!children.isEmpty)) =
        s ++ contentGap o p tag (!children.isEmpty) :=
    hplain.imp id fun hs => by rw [escape_append, hs, escape_of_allBlank hgap]
  have hholds : holdsInPlace (f.name :: below.names) tag children = true := by
    rw [holdsInPlace, htext, Bool.or_true]
  have hvoid := void_of_holdsInPlace hholds
  simp only [holdsTextInPlace, Bool.and_eq_true, Bool.not_eq_true', Bool.and_eq_false_imp,
    decide_eq_true_eq, List.contains_iff_mem] at htext
  obtain ⟨⟨⟨⟨hground, hmem⟩, hxmp⟩, -⟩, -⟩ := htext
  have hnames := h.contains.names_eq
  rw [← hnames] at hground hxmp
  have hstep := h.contains.orderly.startStep_text h.keeps.1 hground
    (t := ⟨tag, as.map rereadAttribute, false⟩) hmem hxmp
  have hstart := h.startTag htag o p.indent false hstep
  obtain ⟨c', hreads, hawaits, hdrop⟩ := h.contains.reads_text
    (t := ⟨tag, as.map rereadAttribute, false⟩) htag rfl hmem hsteady hplain' rest
  refine ⟨c', ?_, ?_, hdrop⟩
  · rw [escape_append, escape_of_allBlank hgap, ← houtlines] at hreads
    rw [Node.body_element hvoid hclosed]
    simp only [List.append_assoc, List.cons_append, List.nil_append] at hreads ⊢
    exact (hstart _).trans hreads
  · have hdrops : dropsFeed tag = decide (tag = "textarea") := by
      have hpre : tag ≠ preTag := by
        rintro rfl
        exact absurd hmem (by decide)
      rw [dropsFeed, decide_eq_false hpre, Bool.false_or]
    rw [Node.reread]
    simp only [hclosed, Bool.false_eq_true, if_false]
    rw [hrereads, hdrops]
    exact hawaits

mutual

/-- The outline of a tag or comment is read back as one more node. -/
theorem Node.reads_body (hescape : o.escapeInnerText = true) (p : Place String) {c : Construction}
    {f : Frame} {below : Stack} {ns : List Node} (h : c.Holds f below ns) : (node : Node) →
      node.isPlaced o (f.name :: below.names) = true → node.isText = false → ∀ rest : List Char,
        ∃ c', Reads ('<' :: (node.body o p ++ rest)) c rest c' ∧
          c'.Awaits f below (ns ++ [node.reread o p]) ∧ c'.dropNewline = false
  | .text _, _, htext, _ => by cases htext
  | .comment data, hdata, _, rest => by
    rw [Node.isPlaced] at hdata
    rw [Node.body, Node.reread]
    simp only [List.cons_append, List.append_assoc]
    exact h.comment p.indent hdata rest
  | .element tag attributes children, hplaced, _, rest => by
    simp only [Node.isPlaced, Bool.and_eq_true, Bool.or_eq_true, Bool.not_eq_true',
      decide_eq_true_eq] at hplaced
    obtain ⟨⟨⟨hname, hattributes⟩, hfirst⟩, hcontent⟩ := hplaced
    have htag : IsTag tag attributes := ⟨hname, hattributes, hfirst⟩
    obtain ⟨hstands, hempty⟩ | ⟨⟨⟨hholds, hshape⟩, hclosed⟩, hchildren⟩ := hcontent
    · rw [List.isEmpty_iff.1 hempty, reread_of_childless]
      exact reads_body_empty h htag hstands p rest
    have hvoid := void_of_holdsInPlace hholds
    rw [holdsInPlace, Bool.or_eq_true] at hholds
    obtain htext | hopens := hholds.symm
    · exact reads_body_text hescape h htag htext hchildren hclosed p rest
    · -- The open tag puts a frame on the stack, the content is read into it, and the end tag hands
      -- it to the frame below.
      obtain ⟨k, hstack, hk⟩ := h.contains.top
      obtain ⟨-, hkname⟩ := Prod.mk.inj hk.key_eq
      have hnames := h.contains.names_eq
      obtain ⟨hopened, hdrop⟩ := h.contains.opened h.keeps.1 hstack
        (t := ⟨tag, attributes.map rereadAttribute, false⟩) hopens
      have hstart := h.startTag htag o p.indent false
        (h.contains.orderly.startStep (by rwa [hnames]))
      have hinner : arePlaced o (tag :: k.name :: below.names) children = true := by
        rwa [hkname]
      have hdrops : dropsFeed tag = decide (tag = "pre") := by
        have harea : tag ∉ ["textarea"] := not_mem_of_opensInPlace hopens _ (by decide)
        rw [dropsFeed, decide_eq_false (mt List.mem_singleton.2 harea), Bool.or_false]
        rfl
      obtain ⟨c', hreads, hholds⟩ := reads_outlines hescape (p.within tag) hopened children hinner
        [] (by simp) (.inl rfl) (contentGap o p tag (!children.isEmpty)) staysIn_of_mem_contentGap
        (allBlank_contentGap tag _) ('<' :: '/' :: (tag.toList ++ '>' :: rest)) (.inr ⟨_, rfl⟩)
      obtain ⟨c'', hstep, hclosed', hkeep⟩ := hholds.contains.closed hk htag rfl
      have hend := hholds.endTag hname hstep rest
      refine ⟨c'', ?_, ?_, hkeep.trans hholds.keeps.1⟩
      · rw [escape_nil, List.nil_append] at hreads
        rw [Node.body_element hvoid hclosed]
        simp only [List.append_assoc, List.cons_append, List.nil_append]
        exact (hstart _).trans (hreads.trans hend)
      · rw [Node.reread]
        simp only [hclosed, Bool.false_eq_true, if_false]
        rw [hdrop] at hclosed'
        rw [hdrops]
        exact hclosed'

/-- The outlines of nodes side by side, with a text in front of them and a gap behind them, are read
back as `rereads` has it. -/
theorem reads_outlines (hescape : o.escapeInnerText = true) (p : Place String) {c : Construction}
    {f : Frame} {below : Stack} {ns : List Node} (h : c.Awaits f below ns) : (nodes : List Node) →
      arePlaced o (f.name :: below.names) nodes = true →
      ∀ front : List Char, (∀ ch ∈ front, staysIn (f.name :: below.names) ch = true) →
        (front = [] ∨ headText nodes = none) →
      ∀ gap : List Char, (∀ ch ∈ gap, staysIn (f.name :: below.names) ch = true) →
        allBlank gap = true →
      ∀ rest : List Char, EndsContent rest →
        ∃ c', Reads (escape front ++ (outlines o p nodes ++ (gap ++ rest))) c rest c' ∧
          c'.Holds f below (ns ++ rereads o p c.dropNewline front gap nodes)
  | [], _, front, hfront, _, gap, hgap, hblank, rest, hrest => by
    -- At the end the text in front and the gap are one text.
    have hsteady : ∀ ch ∈ front ++ gap, staysIn (f.name :: below.names) ch = true :=
      List.forall_mem_append.2 ⟨hfront, hgap⟩
    have hread := h.text hsteady rest hrest.head?_eq
    rw [escape_append, escape_of_allBlank hblank, List.append_assoc] at hread
    rw [outlines, rereads]
    exact hread
  | node :: more, hplaced, front, hfront, hhead, gap, hgap, hblank, rest, hrest => by
    rw [arePlaced, Bool.and_eq_true, Bool.and_eq_true] at hplaced
    obtain ⟨⟨hnode, hadjacent⟩, hmore⟩ := hplaced
    cases hmarkup : node.isText with
    | true =>
      obtain ⟨value, rfl⟩ := Node.exists_eq_text hmarkup
      -- The text is read together with what follows it.
      obtain rfl : front = [] := hhead.resolve_right (by simp [headText])
      have hhead' : headText more = none := by simpa [Node.isText] using hadjacent
      have hvalue : ∀ ch ∈ value.toList, staysIn (f.name :: below.names) ch = true := by
        rw [Node.isPlaced, List.all_eq_true] at hnode
        exact hnode
      have hread := reads_outlines hescape p h more hmore _
        (staysIn_of_mem_writtenText (o := o) (p := p) hvalue) (.inr hhead') gap hgap hblank rest
        hrest
      rw [outlines, Node.outline_text hescape, rereads, escape_nil, List.nil_append,
        List.nil_append, List.append_assoc]
      exact hread
    | false =>
      -- The text in front and what sets the node apart are one text; then the node is read, and
      -- then the others, with no text in front of them.
      have hsteady : ∀ ch ∈ front ++ node.lead p, staysIn (f.name :: below.names) ch = true :=
        List.forall_mem_append.2 ⟨hfront, staysIn_of_mem_lead _ p node⟩
      obtain ⟨c₁, hreads₁, h₁⟩ := h.text hsteady
        ('<' :: (node.body o p ++ (outlines o p more ++ (gap ++ rest)))) (by simp)
      obtain ⟨c₂, hreads₂, h₂, hdrop⟩ := Node.reads_body hescape p h₁ node hnode hmarkup
        (outlines o p more ++ (gap ++ rest))
      obtain ⟨c₃, hreads₃, h₃⟩ := reads_outlines hescape p h₂ more hmore [] (by simp) (.inl rfl) gap
        hgap hblank rest hrest
      refine ⟨c₃, ?_, ?_⟩
      · rw [outlines, Node.outline_eq_lead_append hmarkup]
        rw [escape_append, escape_of_allBlank node.allBlank_lead] at hreads₁
        rw [escape_nil, List.nil_append] at hreads₃
        simp only [List.append_assoc, List.cons_append] at hreads₁ ⊢
        exact hreads₁.trans (hreads₂.trans hreads₃)
      · rw [rereads_cons hmarkup]
        rw [hdrop] at h₃
        simpa only [List.append_assoc, List.cons_append, List.nil_append] using h₃

end

end Trees

end MarkupOutline
