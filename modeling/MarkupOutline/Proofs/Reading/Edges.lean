import MarkupOutline.Proofs.Reading.Settled
import MarkupOutline.Proofs.Render.Blocks

/-!
# Nodes with trimmed edges

A rendering is trimmed as a whole. Where the nodes at the top level have no white space at their
edges (`IsEdged`), trimming takes off the line feed of the first line and nothing else
(`IsEdged.trim_outlines`), and so it hides no difference (`IsEdged.trim_outlines_inj`). The nodes
that are read back have such edges as well (`IsEdged.rereads`).
-/

namespace MarkupOutline

open Text Html

/-! ## The first line feed -/

/-- Only the first character of a text can be left out. -/
theorem afterFeed_append {s : List Char} (hs : s ≠ []) (drop : Bool) (t : List Char) :
    afterFeed drop (s ++ t) = afterFeed drop s ++ t := by
  obtain ⟨c, rest, rfl⟩ := List.exists_cons_of_ne_nil hs
  rw [List.cons_append]
  unfold afterFeed
  split
  · next heq =>
    obtain ⟨rfl, rfl⟩ := List.cons.inj heq
    split <;> rfl
  · next hne =>
    split
    · next heq => exact absurd (congrArg (· ++ t) heq) (hne _)
    · rfl

/-- A text that does not begin with a line feed is read as it stands. -/
theorem afterFeed_of_head?_ne {s : List Char} (h : s.head? ≠ some '\n') (drop : Bool) :
    afterFeed drop s = s := by
  unfold afterFeed
  split
  · exact absurd rfl h
  · rfl

/-- A text that begins visibly is read as it stands. -/
theorem afterFeed_of_startsVisibly {s : List Char} (h : StartsVisibly s) (drop : Bool) :
    afterFeed drop s = s := by
  obtain ⟨c, rest, rfl, hc⟩ := h
  refine afterFeed_of_head?_ne ?_ drop
  rintro hnewline
  rw [Option.some.inj hnewline] at hc
  cases hc

/-- A text ends visibly without its first line feed if it does so with it. -/
theorem endsVisibly_afterFeed {s : List Char} (h : EndsVisibly s) (drop : Bool) :
    EndsVisibly (afterFeed drop s) := by
  obtain ⟨front, c, rfl, hc⟩ := h
  cases front with
  | nil => exact ⟨[], c, afterFeed_of_startsVisibly ⟨c, [], rfl, hc⟩ drop, hc⟩
  | cons d more => exact ⟨_, c, afterFeed_append (List.cons_ne_nil d more) drop [c], hc⟩

/-- A text is read as it stands where no line feed is to be left out. -/
theorem afterFeed_false (s : List Char) : afterFeed false s = s := by
  unfold afterFeed
  split <;> rfl

/-- A line feed that is left out in front of nodes might as well not be there. -/
theorem rereads_afterFeed {o : Options} (p : Place String) (gap : List Char) (ns : List Node)
    {front : List Char} (hfront : front ≠ []) :
    rereads o p true front gap ns = rereads o p false (afterFeed true front) gap ns := by
  induction ns generalizing front with
  | nil => rw [rereads, rereads, afterFeed_false, afterFeed_append hfront]
  | cons node more ih =>
    cases hmarkup : node.isText with
    | true =>
      obtain ⟨value, rfl⟩ := Node.exists_eq_text hmarkup
      rw [rereads, rereads, ih (by simp [hfront]), afterFeed_append hfront]
    | false =>
      rw [rereads_cons hmarkup, rereads_cons hmarkup, afterFeed_false, afterFeed_append hfront]

/-! ## Nodes with trimmed edges -/

/-- What is written in front of the first visible character of nodes with trimmed edges. -/
def edgeGap (o : Options) (ns : List Node) : List Char :=
  if o.preserves "" && (headText ns).isSome then [] else ['\n']

/-- A text in front begins visibly, and a text behind ends visibly. -/
structure IsEdged (ns : List Node) : Prop where
  front : ∀ value, headText ns = some value → StartsVisibly value.toList
  back : ∀ value, ns.getLast? = some (.text value) → EndsVisibly value.toList

section Edges

variable {o : Options} {names : List String}

/-- What sets a tag or comment at the top level apart is a line feed. -/
theorem Node.lead_topLevel {node : Node} (h : node.isText = false) :
    node.lead Place.topLevel = ['\n'] := by
  cases node with
  | text value => cases h
  | comment data => rfl
  | element tag attributes children => rfl

/-- What is written for a text that begins visibly does so, too, but for a line feed in front. -/
theorem startsVisibly_writtenText {value : List Char} (h : StartsVisibly value) :
    ∃ t, StartsVisibly t ∧ Layout.writtenText o Place.topLevel value =
      (if o.preserves "" then [] else ['\n']) ++ t := by
  have hkept : Place.topLevel.keepsText o = o.preserves "" := rfl
  have hblank : ¬ allBlank value = true := by
    rw [h.allBlank_eq]
    decide
  unfold Layout.writtenText
  rw [if_neg hblank, hkept]
  split
  · exact ⟨value, h, rfl⟩
  · exact ⟨trim value, (isTrimmed_trim value).startsVisibly (mt (trim_eq_nil_iff value).1 hblank),
      rfl⟩

/-- What is written for a text that ends visibly does so, too. -/
theorem endsVisibly_writtenText {p : Place String} {value : List Char} (h : EndsVisibly value) :
    EndsVisibly (Layout.writtenText o p value) := by
  have hblank : ¬ allBlank value = true := by
    rw [h.allBlank_eq]
    decide
  unfold Layout.writtenText
  rw [if_neg hblank]
  split
  · exact h
  · have htrim := (isTrimmed_trim value).endsVisibly (mt (trim_eq_nil_iff value).1 hblank)
    exact htrim.append_left _

/-- A tag or comment is written with a bracket at its end. -/
theorem Node.endsVisibly_outline {p : Place String} {node : Node} (h : node.isText = false)
    (hvoid : node.voidsChildless = true) : EndsVisibly (node.outline o p) := by
  have hbracket : (node.outline o p).getLast? = some '>' → EndsVisibly (node.outline o p) := by
    intro hlast
    obtain ⟨front, hfront⟩ := List.getLast?_eq_some_iff.1 hlast
    exact ⟨front, '>', hfront, by decide⟩
  apply hbracket
  cases node with
  | text value => cases h
  | comment data =>
    rw [Node.outline_eq_lead_append rfl, Node.body]
    simp [arrow, List.getLast?_append, List.getLast?_cons]
  | element tag attributes children =>
    exact Node.getLast?_outline_element o p tag attributes children hvoid

namespace IsEdged

variable {ns : List Node}

/-- What is written for nodes with trimmed edges ends visibly. -/
theorem endsVisibly_outlines (h : IsEdged ns) (hescape : o.escapeInnerText = true)
    (hvoid : voidsChildless ns = true) (hns : ns ≠ []) (p : Place String) :
    EndsVisibly (outlines o p ns) := by
  obtain ⟨before, last, rfl⟩ := (List.eq_nil_or_concat ns).resolve_left hns
  rw [List.concat_eq_append] at h hvoid ⊢
  rw [voidsChildless_append, Bool.and_eq_true, voidsChildless, Bool.and_eq_true] at hvoid
  rw [outlines_append, outlines, outlines, List.append_nil]
  refine EndsVisibly.append_left ?_ _
  cases hmarkup : last.isText with
  | true =>
    obtain ⟨value, rfl⟩ := Node.exists_eq_text hmarkup
    rw [Node.outline_text hescape]
    exact endsVisibly_escape (endsVisibly_writtenText (h.back value (by simp)))
  | false => exact Node.endsVisibly_outline hmarkup hvoid.2.1

/-- What is written for nodes with trimmed edges is visible at both ends, but for a line feed in
front. -/
theorem outlines_eq (h : IsEdged ns) (hescape : o.escapeInnerText = true)
    (hvoid : voidsChildless ns = true) (hns : ns ≠ []) :
    ∃ t, StartsVisibly t ∧ EndsVisibly t ∧ outlines o Place.topLevel ns = edgeGap o ns ++ t := by
  have hends := h.endsVisibly_outlines hescape hvoid hns Place.topLevel (o := o)
  -- What is written first decides about the front, and what is written last about the end.
  obtain ⟨t, hstarts, heq⟩ : ∃ t, StartsVisibly t ∧
      outlines o Place.topLevel ns = edgeGap o ns ++ t := by
    obtain ⟨node, more, rfl⟩ := List.exists_cons_of_ne_nil hns
    rw [outlines, edgeGap]
    cases hmarkup : node.isText with
    | true =>
      obtain ⟨value, rfl⟩ := Node.exists_eq_text hmarkup
      obtain ⟨t, hstarts, heq⟩ := startsVisibly_writtenText (o := o) (h.front value rfl)
      refine ⟨escape t ++ outlines o Place.topLevel more,
        (startsVisibly_escape hstarts).append_right _, ?_⟩
      have hgap : escape (if o.preserves "" then [] else ['\n']) =
          if o.preserves "" then [] else ['\n'] := by
        split <;> rfl
      rw [Node.outline_text hescape, heq, escape_append, hgap, headText, Option.isSome_some,
        Bool.and_true, List.append_assoc]
    | false =>
      refine ⟨'<' :: (node.body o Place.topLevel ++ outlines o Place.topLevel more),
        ⟨_, _, rfl, by decide⟩, ?_⟩
      rw [headText_eq_none_of_isText hmarkup, Option.isSome_none, Bool.and_false,
        if_neg (by decide), Node.outline_eq_lead_append hmarkup, Node.lead_topLevel hmarkup,
        List.append_assoc]
      rfl
  obtain ⟨c, rest, rfl, hc⟩ := hstarts
  rw [heq] at hends
  exact ⟨_, ⟨c, rest, rfl, hc⟩, hends.of_append (List.cons_ne_nil c rest), heq⟩

/-- Trimming takes the first line feed of nodes with trimmed edges, and nothing else. -/
theorem trim_outlines (h : IsEdged ns) (hescape : o.escapeInnerText = true)
    (hvoid : voidsChildless ns = true) :
    trim (outlines o Place.topLevel ns) = afterFeed true (outlines o Place.topLevel ns) := by
  by_cases hns : ns = []
  · rw [hns]
    rfl
  · obtain ⟨t, hstarts, hends, heq⟩ := h.outlines_eq hescape hvoid hns
    have hfeed : afterFeed true (edgeGap o ns ++ t) = t := by
      unfold edgeGap
      split
      · exact afterFeed_of_startsVisibly hstarts true
      · rfl
    rw [heq, ← trim_afterFeed true, hfeed, trim_of_isTrimmed (hstarts.isTrimmed hends)]

/-- Trimming hides no difference between nodes with trimmed edges, as long as both begin with text
or neither does. -/
theorem trim_outlines_inj (h : IsEdged ns) {ms : List Node} (h' : IsEdged ms)
    (hescape : o.escapeInnerText = true) (hvoid : voidsChildless ns = true)
    (hvoid' : voidsChildless ms = true) (hhead : (headText ns).isSome = (headText ms).isSome)
    (heq : trim (outlines o Place.topLevel ns) = trim (outlines o Place.topLevel ms)) :
    outlines o Place.topLevel ns = outlines o Place.topLevel ms := by
  -- Trimming takes the gap only, and the gap depends on whether there is text in front.
  have htrim : ∀ {ks : List Node}, IsEdged ks → voidsChildless ks = true → ks ≠ [] →
      trim (outlines o Place.topLevel ks) ≠ [] ∧
        outlines o Place.topLevel ks = edgeGap o ks ++ trim (outlines o Place.topLevel ks) := by
    intro ks hks hvoid hne
    obtain ⟨t, hstarts, hends, heq⟩ := hks.outlines_eq hescape hvoid hne
    have hgap : allBlank (edgeGap o ks) = true := by
      unfold edgeGap
      split <;> rfl
    rw [heq, trim_blank_append hgap, trim_of_isTrimmed (hstarts.isTrimmed hends)]
    obtain ⟨c, rest, rfl, -⟩ := hstarts
    exact ⟨List.cons_ne_nil c rest, rfl⟩
  by_cases hns : ns = []
  · by_cases hms : ms = []
    · rw [hns, hms]
    · rw [hns] at heq
      exact absurd heq.symm (htrim h' hvoid' hms).1
  · by_cases hms : ms = []
    · rw [hms] at heq
      exact absurd heq (htrim h hvoid hns).1
    · rw [(htrim h hvoid hns).2, (htrim h' hvoid' hms).2, heq, edgeGap, edgeGap, hhead]

end IsEdged
/-- Nodes with trimmed edges begin with no line feed that could be left out. -/
theorem IsEdged.areSettled_eq {ns : List Node} (h : IsEdged ns)
    (hplaced : arePlaced o names ns = true) :
    areSettled o Place.topLevel true ns = areSettled o Place.topLevel false ns := by
  have hmarkup : ∀ more, headText more = none →
      areSettled o Place.topLevel true more = areSettled o Place.topLevel false more := by
    intro more hhead
    cases more with
    | nil => rfl
    | cons node rest =>
      have hnode := isText_eq_false_of_headText hhead
      rw [areSettled_cons hnode, areSettled_cons hnode]
  cases ns with
  | nil => rfl
  | cons node more =>
    cases htext : node.isText with
    | false => exact hmarkup _ (headText_eq_none_of_isText htext more)
    | true =>
      obtain ⟨value, rfl⟩ := Node.exists_eq_text htext
      rw [arePlaced, Bool.and_eq_true, Bool.and_eq_true] at hplaced
      have hhead : headText more = none := by simpa [Node.isText] using hplaced.1.2
      obtain ⟨c, rest, heq, hc⟩ := h.front value rfl
      have hfeed : (c == '\n') = false := by
        rw [beq_eq_false_iff_ne]
        rintro rfl
        cases hc
      rw [areSettled, areSettled, hmarkup more hhead, Place.settles, Place.settles, heq]
      simp [hfeed]

/-! ## Nodes that are read back -/

/-- The text that is read back in front of a tag, of a comment or of the end. -/
theorem exists_headText_rereads {p : Place String} {ns : List Node} (hhead : headText ns = none)
    {front : List Char} (hfront : StartsVisibly front) :
    ∃ s, headText (rereads o p false front [] ns) = some s ∧ StartsVisibly s.toList := by
  have htext : ∀ (t : List Char) (more : List Node),
      ∃ s, headText (textNodes (String.ofList (afterFeed false (front ++ t))) ++ more) = some s ∧
        StartsVisibly s.toList := by
    intro t more
    have hvisible : StartsVisibly (front ++ t) := hfront.append_right t
    have hne : front ++ t ≠ [] := by
      obtain ⟨c, rest, heq, -⟩ := hvisible
      rw [heq]
      exact List.cons_ne_nil c rest
    rw [afterFeed_false, textNodes_of_ne_nil hne]
    exact ⟨_, rfl, by rwa [String.toList_ofList]⟩
  cases ns with
  | nil =>
    obtain ⟨s, hs⟩ := htext [] []
    rw [List.append_nil] at hs
    rw [rereads]
    exact ⟨s, hs⟩
  | cons node more =>
    rw [rereads_cons (isText_eq_false_of_headText hhead)]
    exact htext _ _

/-- Nodes with trimmed edges are read back with text in front if and only if there is text in front,
and then it begins visibly. -/
theorem IsEdged.headText_rereads {ns : List Node} (h : IsEdged ns)
    (hplaced : arePlaced o names ns = true) :
    (headText (rereads o Place.topLevel true [] [] ns)).isSome = (headText ns).isSome ∧
      ∀ value, headText (rereads o Place.topLevel true [] [] ns) = some value →
        StartsVisibly value.toList := by
  cases ns with
  | nil =>
    rw [rereads]
    exact ⟨rfl, nofun⟩
  | cons node more =>
    rw [arePlaced, Bool.and_eq_true, Bool.and_eq_true] at hplaced
    cases hmarkup : node.isText with
    | true =>
      obtain ⟨value, rfl⟩ := Node.exists_eq_text hmarkup
      have hhead : headText more = none := by simpa [Node.isText] using hplaced.1.2
      obtain ⟨t, hstarts, heq⟩ := startsVisibly_writtenText (o := o) (h.front value rfl)
      have hfeed : afterFeed true (Layout.writtenText o Place.topLevel value.toList) = t := by
        rw [heq]
        split
        · exact afterFeed_of_startsVisibly hstarts true
        · rfl
      have hne : Layout.writtenText o Place.topLevel value.toList ≠ [] := by
        obtain ⟨c, rest, rfl, -⟩ := hstarts
        rw [heq]
        simp
      obtain ⟨s, hs, hvisible⟩ := exists_headText_rereads (o := o) (p := Place.topLevel) hhead
        hstarts
      rw [rereads, List.nil_append, rereads_afterFeed _ _ _ hne, hfeed, hs]
      refine ⟨rfl, fun value' hvalue => ?_⟩
      rwa [← Option.some.inj hvalue]
    | false =>
      have hnode : (node.reread o Place.topLevel).isText = false :=
        (isText_reread _ node).trans hmarkup
      have hnil : textNodes (String.ofList (afterFeed true ([] ++ ['\n']))) = [] := rfl
      rw [rereads_cons hmarkup, Node.lead_topLevel hmarkup, hnil, List.nil_append,
        headText_eq_none_of_isText hnode, headText_eq_none_of_isText hmarkup]
      exact ⟨rfl, nofun⟩

/-- The nodes that are read back end with a text that ends visibly, if they end with a text and
those that were written do so. -/
theorem endsVisibly_rereads {p : Place String} (ns : List Node)
    (hback : ∀ value, ns.getLast? = some (.text value) → EndsVisibly value.toList) (drop : Bool)
    {front : List Char} (hfront : ns = [] → front = [] ∨ EndsVisibly front) :
    ∀ value, (rereads o p drop front [] ns).getLast? = some (.text value) →
      EndsVisibly value.toList := by
  induction ns generalizing drop front with
  | nil =>
    intro value hvalue
    rw [rereads, List.append_nil] at hvalue
    -- What is left at the end is the text in front, which ends visibly if there is any.
    rcases hfront rfl with rfl | hvisible
    · cases hvalue
    · have hfeed := endsVisibly_afterFeed hvisible drop
      have hne : afterFeed drop front ≠ [] := by
        obtain ⟨before, c, heq, -⟩ := hfeed
        rw [heq]
        simp
      rw [textNodes_of_ne_nil hne] at hvalue
      obtain rfl := Node.text.inj (Option.some.inj hvalue)
      rwa [String.toList_ofList]
  | cons node more ih =>
    have hmore : ∀ value, more.getLast? = some (.text value) → EndsVisibly value.toList := by
      intro value hvalue
      refine hback value ?_
      rw [List.getLast?_cons, hvalue]
      rfl
    cases hmarkup : node.isText with
    | true =>
      obtain ⟨value, rfl⟩ := Node.exists_eq_text hmarkup
      rw [rereads]
      refine ih hmore drop fun hnil => .inr (EndsVisibly.append_left ?_ front)
      rw [hnil] at hback
      exact endsVisibly_writtenText (hback value rfl)
    | false =>
      -- The end is that of what is read back behind the tag or comment.
      intro value hvalue
      rw [rereads_cons hmarkup, List.getLast?_append, List.getLast?_cons, Option.some_or] at hvalue
      cases hlast : (rereads o p false [] [] more).getLast? with
      | none =>
        rw [hlast, Option.getD_none] at hvalue
        have hnode : (node.reread o p).isText = false := (isText_reread p node).trans hmarkup
        rw [Option.some.inj hvalue] at hnode
        cases hnode
      | some last =>
        rw [hlast] at hvalue
        refine ih hmore false (fun _ => .inl rfl) value ?_
        rw [hlast]
        exact hvalue

/-- Nodes with trimmed edges are read back with trimmed edges. -/
theorem IsEdged.rereads {ns : List Node} (h : IsEdged ns) (hplaced : arePlaced o names ns = true) :
    IsEdged (rereads o Place.topLevel true [] [] ns) where
  front := (h.headText_rereads hplaced).2
  back := endsVisibly_rereads ns h.back true fun _ => .inl rfl
end Edges

end MarkupOutline
