import MarkupOutline.Markup
import MarkupOutline.Proofs.Reading.Fragments
import MarkupOutline.Proofs.Reading.Rebuilding

/-!
# Reading renderings

A rendering is the outline of a fragment without the line feed in front. Reading it gives what
`Fragment.reread` describes (`Fragment.ofMarkup_render`): the state in which reading starts is
orderly, the missing line feed makes no difference, no carriage return has to be replaced, and in
the end nothing but the fragment itself is open.
-/

namespace MarkupOutline

open Text Html Html.Construction

/-! ## The first line feed -/

section Feed

variable {o : Options}

/-- A line feed is written as it stands, and nothing else is written with one in front. -/
theorem escape_afterFeed (drop : Bool) (s : List Char) :
    escape (afterFeed drop s) = afterFeed drop (escape s) := by
  cases s with
  | nil => rfl
  | cons c rest =>
    by_cases hc : c = '\n'
    · subst hc
      cases drop <;> rfl
    · have hhead : (escape (c :: rest)).head? ≠ some '\n' := by
        intro hhead
        rw [escape_cons, List.head?_append_of_ne_nil _ (escapeChar_ne_nil c)] at hhead
        exact hc (eq_of_mem_escapeChar (by decide) (List.mem_of_mem_head? hhead)).symm
      rw [afterFeed_of_head?_ne (by simpa using hc), afterFeed_of_head?_ne hhead]

/-- The outline of a fragment is read back without the line feed in front as it would be if that
line feed were left out. -/
theorem reads_afterFeed (hescape : o.escapeInnerText = true) {c : Construction} {f : Frame}
    {below : Stack} (h : c.Awaits f below []) (hdrop : c.dropNewline = false) :
    (nodes : List Node) → arePlaced o (f.name :: below.names) nodes = true →
      ∃ c', Reads (afterFeed true (outlines o Place.topLevel nodes)) c [] c' ∧
        c'.Holds f below (rereads o Place.topLevel true [] [] nodes)
  | [], _ => ⟨c, Reads.refl [] c, h.holds⟩
  | node :: more, hplaced => by
    rw [arePlaced, Bool.and_eq_true, Bool.and_eq_true] at hplaced
    obtain ⟨⟨hnode, hadjacent⟩, hmore⟩ := hplaced
    cases hmarkup : node.isText with
    | true =>
      obtain ⟨value, rfl⟩ := Node.exists_eq_text hmarkup
      have hhead : headText more = none := by simpa [Node.isText] using hadjacent
      have hvalue : ∀ ch ∈ value.toList, staysIn (f.name :: below.names) ch = true := by
        rw [Node.isPlaced, List.all_eq_true] at hnode
        exact hnode
      rw [outlines, Node.outline_text hescape, rereads, List.nil_append]
      by_cases hblank : Layout.writtenText o Place.topLevel value.toList = []
      · -- Nothing is written for the text, so the line feed is that of the next node.
        rw [hblank, escape_nil, List.nil_append]
        exact reads_afterFeed hescape h hdrop more hmore
      · have hsteady := staysIn_of_mem_writtenText (o := o) (p := Place.topLevel) hvalue
        have hread := reads_outlines hescape Place.topLevel h more hmore
          (afterFeed true (Layout.writtenText o Place.topLevel value.toList))
          (fun ch hch => hsteady ch (mem_of_mem_afterFeed hch)) (.inr hhead) [] (by simp) rfl []
          (.inl rfl)
        have hne : escape (Layout.writtenText o Place.topLevel value.toList) ≠ [] :=
          fun heq => hblank (escape_eq_nil_iff.1 heq)
        rw [afterFeed_append hne, rereads_afterFeed _ _ _ hblank, ← escape_afterFeed]
        rwa [hdrop, List.append_nil, List.append_nil, List.nil_append] at hread
    | false =>
      -- The line feed is all that sets the first node apart.
      obtain ⟨c₁, hreads₁, h₁, hdrop₁⟩ := Node.reads_body hescape Place.topLevel h.holds node hnode
        hmarkup (outlines o Place.topLevel more)
      obtain ⟨c₂, hreads₂, h₂⟩ := reads_outlines hescape Place.topLevel h₁ more hmore [] (by simp)
        (.inl rfl) [] (by simp) rfl [] (.inl rfl)
      have hlead := Node.lead_topLevel hmarkup
      refine ⟨c₂, ?_, ?_⟩
      · rw [escape_nil, List.append_nil, List.append_nil, List.nil_append] at hreads₂
        rw [outlines, Node.outline_eq_lead_append hmarkup, hlead]
        exact hreads₁.trans hreads₂
      · rw [hdrop₁] at h₂
        rw [rereads_cons hmarkup, hlead]
        exact h₂

end Feed

/-! ## Line breaks -/

section Returns

variable {o : Options}

/-- A text that is read as it is written has no carriage return. -/
theorem not_mem_of_isSteady {s : List Char} (h : ∀ c ∈ s, isSteady c = true) : '\r' ∉ s := by
  intro hmem
  exact absurd (h _ hmem) (by decide)

/-- A text that stays in its place has no carriage return. -/
theorem not_mem_of_staysIn {names : List String} {s : List Char}
    (h : ∀ c ∈ s, staysIn names c = true) : '\r' ∉ s := by
  refine not_mem_of_isSteady fun c hc => ?_
  have hstays := h c hc
  rw [staysIn, Bool.and_eq_true] at hstays
  exact hstays.1

/-- Space as it stands in tags has no carriage return. -/
theorem not_mem_of_isSpace {s : List Char} (h : ∀ c ∈ s, isSpace c = true) : '\r' ∉ s := by
  intro hmem
  exact absurd (h _ hmem) (by decide)

/-- The name of a tag has no carriage return. -/
theorem not_mem_of_isTagName {tag : String} (h : isTagName tag = true) : '\r' ∉ tag.toList := by
  simp only [isTagName, Bool.and_eq_true, List.all_eq_true] at h
  exact not_mem_of_isSteady fun c hc => (h.1.2 c hc).1.2

/-- Line breaks are line feeds where there is no carriage return. -/
theorem normalizeNewlines_eq_self {s : List Char} (h : '\r' ∉ s) : normalizeNewlines s = s := by
  induction s with
  | nil => rfl
  | cons c rest ih =>
    rw [List.mem_cons, not_or] at h
    unfold normalizeNewlines
    split
    · next heq => cases heq
    · next heq => exact absurd (List.cons.inj heq).1.symm h.1
    · next heq => exact absurd (List.cons.inj heq).1.symm h.1
    · next heq =>
      obtain ⟨rfl, rfl⟩ := List.cons.inj heq
      rw [ih h.2]

/-- No carriage return is written with attributes that are read back. -/
theorem not_mem_attributeList {as : List (String × String)} (h : as.all isSteadyAttribute = true)
    (indent : Int) (closed : Bool) :
    '\r' ∉ Layout.attributeList o indent closed (Layout.attributeTexts o as) := by
  rw [Layout.attributeList_eq, List.mem_append, not_or, List.mem_flatMap]
  constructor
  · rintro ⟨text, htext, hmem⟩
    obtain ⟨⟨name, value⟩, ha, rfl⟩ := List.mem_map.1 htext
    have hsteady := List.all_eq_true.1 h (name, value) ha
    simp only [isSteadyAttribute, Bool.and_eq_true, List.all_eq_true, decide_eq_true_eq] at hsteady
    obtain ⟨⟨⟨⟨-, hname⟩, -⟩, -⟩, hvalue⟩ := hsteady
    rcases List.mem_append.1 hmem with hgap | hmem
    · exact not_mem_of_isSpace (Token.isSpace_gap indent _) hgap
    · dsimp only at hmem
      rw [Layout.attributeText_eq, List.mem_append] at hmem
      rcases hmem with hmem | hmem
      · exact not_mem_of_isSteady (fun c hc => (hname c hc).2) hmem
      · unfold Layout.valuePart at hmem
        split at hmem
        · have hmem' : '\r' ∈ value.toList := by simpa using hmem
          exact (hvalue _ hmem').2 rfl
        · cases hmem
  · obtain ⟨b, hb, hspace, -⟩ := Token.exists_ending_eq indent closed
      (decide (o.attributesPerLine < as.length))
    rw [hb, List.mem_append, not_or]
    refine ⟨not_mem_of_isSpace hspace, ?_⟩
    cases closed <;> decide

/-- No carriage return is written with an end tag that is read back. -/
theorem not_mem_write {tag : String} (h : isTagName tag = true) (e : Layout.EndTag) (indent : Int) :
    '\r' ∉ e.write indent tag.toList := by
  have htag := not_mem_of_isTagName h
  have hline := not_mem_of_isSpace (Token.isSpace_newline indent)
  cases e with
  | absent => exact List.not_mem_nil
  | inline => simp [Layout.EndTag.write, htag]
  | ownLine => simp [Layout.EndTag.write, htag, hline]

mutual

/-- No carriage return is written for a tree in place. -/
theorem Node.not_mem_outline (hescape : o.escapeInnerText = true) (p : Place String)
    (names : List String) : (node : Node) → node.isPlaced o names = true → '\r' ∉ node.outline o p
  | .text value, h => by
    rw [Node.isPlaced, List.all_eq_true] at h
    rw [Node.outline_text hescape]
    exact fun hmem => not_mem_of_staysIn (staysIn_of_mem_writtenText h)
      (mem_of_mem_escape (by decide) hmem)
  | .comment data, h => by
    simp only [Node.isPlaced, isCommentData, Bool.and_eq_true, List.all_eq_true] at h
    have hpayload : '\r' ∉ Layout.payload p.indent data.toList :=
      not_mem_of_isSteady fun c hc => Token.isSteady_of_mem_payload h.1.1 hc
    have hlead := not_mem_of_staysIn (staysIn_of_mem_lead names p (.comment data))
    rw [Node.outline_eq_lead_append rfl, Node.body]
    simp [hlead, hpayload, arrow]
  | .element tag attributes children, h => by
    have hlead := not_mem_of_staysIn (staysIn_of_mem_lead names p
      (.element tag attributes children))
    simp only [Node.isPlaced, Bool.and_eq_true, Bool.or_eq_true] at h
    obtain ⟨⟨⟨hname, hattributes⟩, -⟩, hcontent⟩ := h
    have hchildren : '\r' ∉ outlines o (p.within tag) children := by
      rcases hcontent with ⟨-, hempty⟩ | ⟨-, hplaced⟩
      · rw [List.isEmpty_iff.1 hempty]
        exact List.not_mem_nil
      · exact not_mem_outlines hescape (p.within tag) (tag :: names) children hplaced
    have htag := not_mem_of_isTagName hname
    have hlist := not_mem_attributeList (o := o) hattributes p.indent
    have hwrite := not_mem_write hname
    have hbody : '\r' ∉ (Node.element tag attributes children).body o p := by
      rw [Node.body]
      simp only [List.mem_append, not_or]
      refine ⟨⟨htag, hlist _⟩, ?_⟩
      split
      · exact List.not_mem_nil
      · exact fun hmem => (List.mem_append.1 hmem).elim hchildren (hwrite _ _)
    rw [Node.outline_eq_lead_append rfl]
    simp [hlead, hbody]

/-- No carriage return is written for trees in place side by side. -/
theorem not_mem_outlines (hescape : o.escapeInnerText = true) (p : Place String)
    (names : List String) : (ns : List Node) → arePlaced o names ns = true → '\r' ∉ outlines o p ns
  | [], _ => List.not_mem_nil
  | node :: more, h => by
    rw [arePlaced, Bool.and_eq_true, Bool.and_eq_true] at h
    rw [outlines, List.mem_append, not_or]
    exact ⟨node.not_mem_outline hescape p names h.1.1, not_mem_outlines hescape p names more h.2⟩

end

end Returns

/-! ## Fragments -/

/-- The frame of a fragment as a whole, before anything has been read. -/
def rootFrame : Frame := { id := 0, name := "html" }

/-- Nothing but the fragment itself is open when reading starts. -/
theorem awaits_start : Construction.start.Awaits rootFrame [] [] := by
  have hroot : ∀ P : Frame → Prop, P rootFrame → ∀ f ∈ Construction.start.stack, P f := by
    intro P hP f hf
    rwa [List.mem_singleton.1 hf]
  exact
    { orderly :=
        { mode_eq := rfl
          nested := .root
          model_eq := rfl
          fostering_eq := rfl
          plain := hroot _ ⟨rfl, rfl, rfl⟩
          ids := List.pairwise_singleton _ _
          fresh := hroot _ Nat.zero_lt_one
          formatting := .skip (by decide) .nil
          form := hroot _ (by decide)
          form_open := by simp [Construction.start] }
      top := ⟨rootFrame, rfl, ⟨rfl, rfl, rfl⟩, rfl⟩ }

/-- The nodes of a fragment are what its frame contains when everything has been read. -/
theorem content_finish {c : Construction} {f : Frame} {ns : List Node} (h : c.Holds f [] ns) :
    c.finish.content = .ok ns := by
  obtain ⟨k, hstack, hk⟩ := h.contains.top
  unfold Construction.finish
  dsimp only
  -- Text that is still waiting is put in its place.
  have hplaced : (if c.mode = .tableText then c.placePending else c).stack = c.placed.stack := by
    rw [placed]
    split <;> rfl
  rw [hplaced, hstack]
  exact hk.content_eq

/-- The rendering of a fragment in place is read as `Fragment.reread` has it. -/
theorem Fragment.ofMarkup_render {o : Options} (hescape : o.escapeInnerText = true) (f : Fragment)
    (hf : f.isPlaced o = true) : Fragment.ofMarkup (f.render o) = .ok (f.reread o) := by
  have hplaced := arePlaced_trimEdges hescape hf
  have hreturn := not_mem_outlines hescape Place.topLevel ["html"] _ hplaced
  have hrender := f.toList_render_of_isPlaced hescape hf
  obtain ⟨c, hreads, hholds⟩ := reads_afterFeed hescape awaits_start rfl _ hplaced
  have hread : ∀ n, (f.render o).toList.length ≤ n →
      (readWithin n (f.render o).toList Construction.start).finish.content =
        .ok (f.reread o).children := by
    intro n hn
    rw [hrender] at hn ⊢
    rw [hreads.eq_of_nil hn]
    exact content_finish hholds
  rw [Fragment.ofMarkup]
  split
  · next hempty =>
    -- Nothing is read, so the fragment holds nothing.
    have hnil : (f.render o).toList = [] := by simpa using hempty
    have hcontent := hread 0 (by rw [hnil]; exact Nat.le_refl 0)
    have hchildren : (f.reread o).children = [] := (Except.ok.inj hcontent).symm
    rw [← hchildren]
  · have hnormal : normalizeNewlines (f.render o).toList = (f.render o).toList := by
      refine normalizeNewlines_eq_self fun hmem => hreturn ?_
      rw [hrender] at hmem
      exact mem_of_mem_afterFeed hmem
    rw [Html.parseTree, hnormal, hread _ (Nat.le_refl _)]
    rfl

end MarkupOutline
