import MarkupOutline.Proofs.Reading.Reread

/-!
# Elements that are read back

Whether an element is written in the same way once it has been read back comes down to its content,
between open and end tags that stay the same (`element_reread_iff`). There is one more way in which
it can change: an element with blank text only, which is kept as it stands, is read back without
content, and then it may close itself.
-/

namespace MarkupOutline

open Text Html

section Content

variable {o : Options} {p : Place String}

/-- Nothing is left of a text behind a line feed only if there is nothing else. -/
theorem afterFeed_append_eq_nil_iff (drop : Bool) (value : List Char) {gap : List Char}
    (hgap : drop = true → allBlank value = true → gap = []) :
    afterFeed drop (Layout.writtenText o p value ++ gap) = [] ↔
      allBlank value = true ∧ gap = [] := by
  constructor
  · intro hnil
    by_cases hblank : allBlank value = true
    · refine ⟨hblank, ?_⟩
      rw [(writtenText_eq_nil_iff value).2 hblank, List.nil_append] at hnil
      unfold afterFeed at hnil
      split at hnil
      · split at hnil
        · next hdrop => exact hgap hdrop hblank
        · cases hnil
      · exact hnil
    · exfalso
      have hvisible : allBlank (Layout.writtenText o p value ++ gap) = true := by
        rw [← allBlank_afterFeed drop, hnil]
        rfl
      rw [allBlank_append, Bool.and_eq_true] at hvisible
      apply hblank
      have hwritten := hvisible.1
      unfold Layout.writtenText at hwritten
      rw [if_neg hblank] at hwritten
      split at hwritten
      · exact hwritten
      · rwa [allBlank_append, allBlank_newline, Bool.true_and, ← trim_eq_nil_iff,
          trim_of_isTrimmed (isTrimmed_trim value), trim_eq_nil_iff] at hwritten
  · rintro ⟨hblank, rfl⟩
    rw [(writtenText_eq_nil_iff value).2 hblank]
    rfl

/-- No text is left of characters exactly when there are none. -/
theorem textNodes_ofList_eq_nil_iff (s : List Char) :
    textNodes (String.ofList s) = [] ↔ s = [] := by
  cases s with
  | nil => simp [textNodes]
  | cons c rest => simp [textNodes]

/-- Nothing is read back of content only if it is blank text and no line break stands behind it. -/
theorem rereads_eq_nil_iff (names : List String) (drop : Bool) {gap : List Char} {ns : List Node}
    (hgap : drop = true → ns.all Node.isBlankText = true → gap = [])
    (h : arePlaced o names ns = true) :
    rereads o p drop [] gap ns = [] ↔ ns.all Node.isBlankText = true ∧ gap = [] := by
  match ns, h, hgap with
  | [], _, hgap =>
    rw [rereads, textNodes_ofList_eq_nil_iff]
    have hnil := afterFeed_append_eq_nil_iff (o := o) (p := p) drop [] fun hdrop _ => hgap hdrop rfl
    rw [writtenText_nil] at hnil
    rw [hnil]
    simp
  | [.text value], _, hgap =>
    rw [rereads, List.nil_append, rereads, textNodes_ofList_eq_nil_iff,
      afterFeed_append_eq_nil_iff drop value.toList fun hdrop hblank =>
        hgap hdrop (by simpa [Node.isBlankText] using hblank)]
    simp [Node.isBlankText]
  | .text value :: .text value' :: more, h, _ => simp [arePlaced, Node.isText, headText] at h
  | .text value :: .comment data :: more, _, _ => simp [rereads, Node.isBlankText]
  | .text value :: .element tag attributes children :: more, _, _ =>
    simp [rereads, Node.isBlankText]
  | .comment data :: more, _, _ => simp [rereads, Node.isBlankText]
  | .element tag attributes children :: more, _, _ => simp [rereads, Node.isBlankText]

/-- An open tag that closes itself does not look like the same tag when it does not. -/
theorem attributeList_closed_ne (indent : Int) (attributes : List (String × String))
    (r s : List Char) :
    Layout.attributeList o indent true (Layout.attributeTexts o attributes) ++ r ≠
      Layout.attributeList o indent false (Layout.attributeTexts o attributes) ++ s := by
  intro h
  rw [Layout.attributeList_eq, Layout.attributeList_eq, List.append_assoc, List.append_assoc] at h
  have hclosed := (Layout.ending_append_inj (List.append_cancel_left h)).1
  cases hclosed

/-- Nothing is written for blank texts. -/
theorem outlines_eq_nil_of_blank {ns : List Node} (h : ns.all Node.isBlankText = true) :
    outlines o p ns = [] := by
  induction ns with
  | nil => rfl
  | cons node more ih =>
    rw [List.all_cons, Bool.and_eq_true] at h
    cases node with
    | text value =>
      have hvalue : allBlank value.toList = true := h.1
      rw [outlines, ih h.2, Node.outline_of_allBlank hvalue, List.append_nil]
    | comment data => cases h.1
    | element tag attributes children => cases h.1

/-- Content is read back in the same way up to white space at its ends. -/
def ReadsBack (o : Options) (p : Place String) (drop : Bool) (children : List Node) : Prop :=
  ∀ gap r s, allBlank gap = true → (p.keepsText o = true → gap = []) → EndsContent r →
    EndsContent s →
    (outlines o p (rereads o p drop [] gap children) ++ (gap ++ r) =
        outlines o p children ++ (gap ++ s) ↔
      areSettled o p drop children = true ∧ r = s)

/-- An element that does not lose all its content when it is read back is written in the same way if
and only if the content is. -/
theorem body_append_iff {tag : String} {attributes : List (String × String)}
    {children content : List Node} (hvoid : (Kind.ofName tag).void = false)
    (hclosed : Layout.closesItself o (.ofName tag) (!children.isEmpty) = false)
    (hsame : content.isEmpty = children.isEmpty) (r s : List Char) :
    (Node.element tag attributes content).body o p ++ r =
        (Node.element tag attributes children).body o p ++ s ↔
      outlines o (p.within tag) content ++ (contentGap o p tag (!children.isEmpty) ++
          '<' :: '/' :: (tag.toList ++ '>' :: r)) =
        outlines o (p.within tag) children ++ (contentGap o p tag (!children.isEmpty) ++
          '<' :: '/' :: (tag.toList ++ '>' :: s)) := by
  rw [Node.body_element hvoid (by rw [hsame, hclosed]), Node.body_element hvoid hclosed, hsame]
  simp only [List.append_assoc, List.cons_append, List.nil_append, List.append_cancel_left_eq]

/-- An element that loses all its content is written in the same way unless it closes itself. -/
theorem body_nil_append_iff {tag : String} {children : List Node}
    (hvoid : (Kind.ofName tag).void = false)
    (hclosed : Layout.closesItself o (.ofName tag) (!children.isEmpty) = false)
    (hnothing : outlines o (p.within tag) children ++ contentGap o p tag (!children.isEmpty) = [])
    (attributes : List (String × String)) (r s : List Char) :
    (Node.element tag attributes []).body o p ++ r =
        (Node.element tag attributes children).body o p ++ s ↔
      Layout.closesItself o (.ofName tag) false = false ∧ r = s := by
  obtain ⟨houtlines, hgap⟩ := List.append_eq_nil_iff.1 hnothing
  rw [Node.body_element hvoid hclosed, houtlines, hgap]
  cases hself : Layout.closesItself o (.ofName tag) false with
  | true =>
    rw [Node.body]
    simp only [List.isEmpty_nil, Bool.not_true, hself, if_true, List.append_nil, List.append_assoc,
      List.append_cancel_left_eq]
    simp only [Bool.true_eq_false, false_and, iff_false]
    exact attributeList_closed_ne p.indent attributes _ _
  | false =>
    rw [Node.body_element hvoid hself, outlines, List.isEmpty_nil, Bool.not_true,
      contentGap_false]
    simp

/-- Two elements are written alike only if reading has not changed the attributes. -/
theorem Node.attributes_of_body_eq {tag : String} {attributes : List (String × String)}
    (ha : attributes.all isSteadyAttribute = true) {children content : List Node} {r s : List Char}
    (h : (Node.element tag (attributes.map rereadAttribute) content).body o p ++ r =
      (Node.element tag attributes children).body o p ++ s) :
    attributes.map rereadAttribute = attributes := by
  rw [Node.body, Node.body] at h
  simp only [List.append_assoc, List.append_cancel_left_eq] at h
  exact Layout.attributeList_reread_inj ha h

/-- No line break stands in front of an end tag where text is kept as it stands. -/
theorem contentGap_of_keepsText {tag : String} (hvoid : (Kind.ofName tag).void = false)
    (hshape : (Kind.ofName tag).shape = false) (hkeep : (p.within tag).keepsText o = true)
    (hasChildren : Bool) : contentGap o p tag hasChildren = [] := by
  cases hasChildren with
  | false => exact contentGap_false tag
  | true => rw [contentGap_true hvoid hshape, if_pos hkeep]

/-- Nothing is read back where there is no content. -/
theorem rereads_childless (p q : Place String) (tag : String) (drop : Bool) :
    rereads o q drop [] (contentGap o p tag false) [] = [] := by
  rw [contentGap_false, rereads]
  rfl

/-- An element in place loses all its content when it is read back if and only if that is blank text
that is kept as it stands. -/
theorem rereads_lost_iff (hp : p.IsNested) {names : List String} {tag : String}
    {children : List Node} (hvoid : (Kind.ofName tag).void = false)
    (hshape : (Kind.ofName tag).shape = false)
    (harea : tag = "textarea" → children ≠ [] → children.all Node.isBlankText = false)
    (hplaced : arePlaced o (tag :: names) children = true) :
    rereads o (p.within tag) (dropsFeed tag) [] (contentGap o p tag (!children.isEmpty)) children =
          [] ∧ children ≠ [] ↔
      ((p.within tag).keepsText o && !children.isEmpty &&
        children.all Node.isBlankText) = true := by
  have hdrop : dropsFeed tag = true → children.all Node.isBlankText = true →
      contentGap o p tag (!children.isEmpty) = [] := by
    intro hdrops hblank
    rw [dropsFeed, Bool.or_eq_true, decide_eq_true_eq, decide_eq_true_eq] at hdrops
    rcases hdrops with hpre | htextarea
    · exact contentGap_of_keepsText hvoid hshape (hp.keepsText_within hpre) _
    · by_cases hchildren : children = []
      · rw [hchildren]
        exact contentGap_false tag
      · rw [harea htextarea hchildren] at hblank
        cases hblank
  rw [rereads_eq_nil_iff (tag :: names) (dropsFeed tag) hdrop hplaced, Bool.and_eq_true,
    Bool.and_eq_true, Bool.not_eq_true', List.isEmpty_eq_false_iff]
  constructor
  · rintro ⟨⟨hblank, hgap⟩, hchildren⟩
    refine ⟨⟨?_, hchildren⟩, hblank⟩
    rw [List.isEmpty_eq_false_iff.2 hchildren, Bool.not_false, contentGap_true hvoid hshape] at hgap
    split at hgap
    · assumption
    · cases hgap
  · rintro ⟨⟨hkeep, hchildren⟩, hblank⟩
    exact ⟨⟨hblank, contentGap_of_keepsText hvoid hshape hkeep _⟩, hchildren⟩

/-- An element that is read back is written in the same way if and only if its attributes and its
content are, and it does not close itself for want of content. -/
theorem element_reread_iff (hp : p.IsNested) {names : List String} {tag : String}
    {attributes : List (String × String)} {children : List Node}
    (ha : attributes.all isSteadyAttribute = true)
    (hvoid : (Kind.ofName tag).void = false) (hshape : (Kind.ofName tag).shape = false)
    (hclosed : Layout.closesItself o (.ofName tag) (!children.isEmpty) = false)
    (harea : tag = "textarea" → children ≠ [] → children.all Node.isBlankText = false)
    (hplaced : arePlaced o (tag :: names) children = true)
    (hcontent : ReadsBack o (p.within tag) (dropsFeed tag) children) (r s : List Char) :
    ((Node.element tag attributes children).reread o p).body o p ++ r =
        (Node.element tag attributes children).body o p ++ s ↔
      (Node.element tag attributes children).isSettled o p = true ∧ r = s := by
  have hkeep := fun hkeep => contentGap_of_keepsText (o := o) (p := p) hvoid hshape hkeep
    (!children.isEmpty)
  have hloses := rereads_lost_iff hp hvoid hshape harea hplaced
  have hiff := fun r s => hcontent _ r s (allBlank_contentGap tag (!children.isEmpty)) hkeep
  have hnone : children = [] → rereads o (p.within tag) (dropsFeed tag) []
      (contentGap o p tag (!children.isEmpty)) children = [] := by
    rintro rfl
    exact rereads_childless p _ tag _
  -- Attributes that change change the open tag.
  by_cases hvalues : attributes.map rereadAttribute = attributes
  case neg =>
    refine ⟨fun h => ?_, fun h => ?_⟩
    · rw [Node.reread] at h
      exact absurd (Node.attributes_of_body_eq ha h) hvalues
    · rw [Node.isSettled, decide_eq_false hvalues] at h
      cases h.1
  rw [Node.reread, Node.isSettled, hvalues, decide_eq_true rfl, Bool.true_and]
  simp only [hclosed, Bool.false_eq_true, if_false]
  generalize rereads o (p.within tag) (dropsFeed tag) []
    (contentGap o p tag (!children.isEmpty)) children = content at hloses hiff hnone
  by_cases hlost : content = [] ∧ children ≠ []
  · -- The same is written as long as the element without content does not close itself.
    have hcollapses := hloses.1 hlost
    simp only [Bool.and_eq_true] at hcollapses
    obtain ⟨⟨hkept, hchildren⟩, hblank⟩ := hcollapses
    obtain ⟨rfl, -⟩ := hlost
    have houtlines := outlines_eq_nil_of_blank (o := o) (p := p.within tag) hblank
    have hcontentSettled := ((hiff [] [] (.inl rfl) (.inl rfl)).1 (by rw [houtlines]; rfl)).1
    rw [body_nil_append_iff hvoid hclosed (by rw [houtlines, hkeep hkept]; rfl),
      hcontentSettled, hkept, hchildren, hblank]
    simp
  · -- The open tag stays the same, so the content decides.
    have hsame : content.isEmpty = children.isEmpty := by
      cases hchildren : children.isEmpty with
      | true =>
        rw [hnone (List.isEmpty_iff.1 hchildren)]
        rfl
      | false =>
        rw [List.isEmpty_eq_false_iff] at hchildren ⊢
        exact fun hnil => hlost ⟨hnil, hchildren⟩
    have hstays : ((p.within tag).keepsText o && !children.isEmpty &&
        children.all Node.isBlankText) = false := Bool.eq_false_iff.2 (mt hloses.2 hlost)
    rw [body_append_iff hvoid hclosed hsame, hiff _ _ (.inr ⟨_, rfl⟩) (.inr ⟨_, rfl⟩)]
    rw [Bool.and_assoc, Bool.and_assoc, ← Bool.and_assoc ((p.within tag).keepsText o), hstays]
    simp

end Content
end MarkupOutline
