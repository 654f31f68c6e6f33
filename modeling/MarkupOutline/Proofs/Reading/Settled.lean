import MarkupOutline.Proofs.Reading.Elements

/-!
# Settled trees

The outline of a tree that is read back is the same if and only if the tree is settled
(`outlines_reread_iff`). The induction carries the text in front of the next tag or comment along:
texts end where an angle bracket stands, so equal outlines are cut in front of each tag or comment,
and behind it, and the parts are compared one by one.
-/

namespace MarkupOutline

open Text Html

/-! ## Equal outlines -/

section Trees

variable {o : Options}

/-- An element that never has content is read back without content. -/
theorem reread_of_childless (p : Place String) (tag : String)
    (attributes : List (String × String)) :
    (Node.element tag attributes []).reread o p =
      .element tag (attributes.map rereadAttribute) [] := by
  rw [Node.reread]
  split
  · rfl
  · rw [List.isEmpty_nil, Bool.not_true, rereads_childless]

/-- A node that is read back is set apart in the same way. -/
theorem lead_reread (p : Place String) (node : Node) :
    (node.reread o p).lead p = node.lead p := by
  cases node with
  | text value => rfl
  | comment data => rfl
  | element tag attributes children => rw [Node.reread]; rfl

/-- A tag or comment is read back as one. -/
theorem isText_reread (p : Place String) (node : Node) :
    (node.reread o p).isText = node.isText := by
  cases node with
  | text value => rfl
  | comment data => rfl
  | element tag attributes children => rw [Node.reread]; rfl

/-- What is read back of a tag or comment and the nodes behind it. -/
theorem rereads_cons {p : Place String} {node : Node} (h : node.isText = false) (drop : Bool)
    (front gap : List Char) (more : List Node) :
    rereads o p drop front gap (node :: more) =
      textNodes (String.ofList (afterFeed drop (front ++ node.lead p))) ++
        node.reread o p :: rereads o p false [] gap more := by
  cases node with
  | text value => cases h
  | comment data =>
    rw [rereads]
    rintro value ⟨⟩
  | element tag attributes children =>
    rw [rereads]
    rintro value ⟨⟩

/-- A tag or comment and the nodes behind it are settled if each is. -/
theorem areSettled_cons {p : Place String} {node : Node} (h : node.isText = false) (drop : Bool)
    (more : List Node) :
    areSettled o p drop (node :: more) = (node.isSettled o p && areSettled o p false more) := by
  cases node with
  | text value => cases h
  | comment data =>
    rw [areSettled]
    rintro value ⟨⟩
  | element tag attributes children =>
    rw [areSettled]
    rintro value ⟨⟩

/-- Where there is no text, nothing has to settle. -/
theorem settles_nil (p : Place String) (drop : Bool) (next : List Node) :
    p.settles o drop [] next = true := rfl

/-- Whether a text settles, in terms of the white space that is read back behind it. -/
theorem settles_iff {p : Place String} (drop : Bool) (value : List Char) (next : List Node) :
    p.settles o drop value next = true ↔
      allBlank value = true ∨ p.keepsText o = false ∨
        (¬ (drop = true ∧ value.head? = some '\n') ∧ ∀ node ∈ next.head?, node.lead p = []) := by
  simp only [Place.settles, Bool.or_eq_true, Bool.and_eq_true, Bool.not_eq_true', or_assoc,
    Option.all_eq_true, List.isEmpty_iff, Bool.and_eq_false_imp, beq_eq_false_iff_ne, not_and]
  rfl

mutual

/-- A tag or comment that is read back is written in the same way, whatever follows it, if and only
if it is settled. -/
theorem Node.body_reread_iff (hescape : o.escapeInnerText = true) {p : Place String}
    (hp : p.IsNested) (names : List String) : (node : Node) → node.isPlaced o names = true →
      node.isText = false → ∀ r s : List Char,
        ((node.reread o p).body o p ++ r = node.body o p ++ s ↔ node.isSettled o p = true ∧ r = s)
  | .text _, _, htext, _, _ => by cases htext
  | .comment data, _, _, r, s => by
    rw [Node.reread, Node.body, Node.body, String.toList_ofList, Layout.payload_payload,
      List.append_cancel_left_eq, Node.isSettled]
    simp
  | .element tag attributes children, h, _, r, s => by
    simp only [Node.isPlaced, Bool.and_eq_true, Bool.or_eq_true, Bool.not_eq_true'] at h
    obtain ⟨⟨⟨-, ha⟩, -⟩, ⟨-, hempty⟩ | ⟨⟨⟨hholds, hshape⟩, hclosed⟩, hchildren⟩⟩ := h
    · obtain rfl := List.isEmpty_iff.1 hempty
      rw [reread_of_childless, Node.isSettled, areSettled]
      by_cases hvalues : attributes.map rereadAttribute = attributes
      · rw [hvalues, List.append_cancel_left_eq]
        simp
      · refine ⟨fun h => absurd (Node.attributes_of_body_eq ha h) hvalues, fun h => ?_⟩
        rw [decide_eq_false hvalues] at h
        cases h.1
    · have hinner := hp.within tag
      refine element_reread_iff hp ha (void_of_holdsInPlace hholds) hshape hclosed
        (isBlankText_of_holdsInPlace hholds) hchildren ?_ r s
      intro gap r s hgap hkeep hr hs
      have hiff := outlines_reread_iff hescape hinner (tag :: names) children hchildren
        (dropsFeed tag) [] (.inl rfl) gap hgap hkeep r s hr hs
      rw [writtenText_nil, escape_nil, List.nil_append] at hiff
      rw [hiff]
      simp [settles_nil]

/-- Nodes side by side that are read back, with a text in front of them, are written in the same way
up to the end of the content they are in, if and only if the text and the nodes are settled. -/
theorem outlines_reread_iff (hescape : o.escapeInnerText = true) {p : Place String}
    (hp : p.IsNested) (names : List String) : (ns : List Node) → arePlaced o names ns = true →
      ∀ (drop : Bool) (value : List Char), (value = [] ∨ headText ns = none) →
      ∀ gap : List Char, allBlank gap = true → (p.keepsText o = true → gap = []) →
      ∀ r s : List Char, EndsContent r → EndsContent s →
        (outlines o p (rereads o p drop (Layout.writtenText o p value) gap ns) ++ (gap ++ r) =
            escape (Layout.writtenText o p value) ++ outlines o p ns ++ (gap ++ s) ↔
          p.settles o drop value ns = true ∧ areSettled o p drop ns = true ∧ r = s)
  | [], _, drop, value, _, gap, hgap, hkeep, r, s, hr, hs => by
    have hnext := writtenText_afterFeed_iff (o := o) (p := p) drop value hgap
    -- The texts on both sides end at the same place, in front of the end tag.
    have hbracket : ∀ t, '<' ∉ escape t ++ gap := by
      intro t hmem
      rcases List.mem_append.1 hmem with htext | hspace
      · exact not_mem_escape t htext
      · exact absurd ((allBlank_iff gap).1 hgap _ hspace) (by decide)
    rw [rereads, outlines_textNodes hescape, outlines, List.append_nil, ← List.append_assoc,
      ← List.append_assoc, append_eq_append_iff_of_bracket (hbracket _) (hbracket _) hr.head?_eq
        hs.head?_eq, List.append_cancel_right_eq, escape_inj, hnext, settles_iff, areSettled]
    cases hkept : p.keepsText o with
    | true => simp [hkeep hkept]
    | false => simp
  | node :: more, h, drop, value, hvalue, gap, hgap, hkeep, r, s, hr, hs => by
    rw [arePlaced, Bool.and_eq_true, Bool.and_eq_true] at h
    obtain ⟨⟨hnode, hadjacent⟩, hmore⟩ := h
    cases hmarkup : node.isText with
    | true =>
      obtain ⟨text, rfl⟩ := Node.exists_eq_text hmarkup
      -- The text is carried along to the next tag or comment, or to the end.
      obtain rfl : value = [] := hvalue.resolve_right (by simp [headText])
      have hhead : headText more = none := by simpa [Node.isText] using hadjacent
      have hiff := outlines_reread_iff hescape hp names more hmore drop text.toList
        (.inr hhead) gap hgap hkeep r s hr hs
      rw [writtenText_nil, escape_nil, List.nil_append, rereads, List.nil_append, outlines,
        Node.outline_text hescape, hiff, areSettled]
      simp [settles_nil, and_assoc]
    | false =>
      have hbracket : ∀ t, '<' ∉ escape t ++ node.lead p := by
        intro t hmem
        rcases List.mem_append.1 hmem with htext | hspace
        · exact not_mem_escape t htext
        · exact node.not_mem_lead hspace
      have hnext := writtenText_afterFeed_iff drop value (p := p) (o := o)
        (node.allBlank_lead (p := p))
      have hbody := fun r s => Node.body_reread_iff hescape hp names node hnode hmarkup r s
      have hiff := outlines_reread_iff hescape hp names more hmore false [] (.inl rfl) gap
        hgap hkeep r s hr hs
      rw [writtenText_nil, escape_nil, List.nil_append] at hiff
      rw [rereads_cons hmarkup, outlines_append, outlines_textNodes hescape, outlines, outlines,
        Node.outline_eq_lead_append ((isText_reread p node).trans hmarkup), lead_reread,
        Node.outline_eq_lead_append hmarkup]
      simp only [List.append_assoc, List.cons_append]
      -- Both sides are cut in front of the tag or comment, and behind it.
      rw [← List.append_assoc, ← List.append_assoc (escape (Layout.writtenText o p value)),
        append_eq_append_iff_of_bracket (hbracket _) (hbracket _) (by simp) (by simp),
        List.append_cancel_right_eq, escape_inj, hnext, List.cons_inj_right, hbody, hiff,
        areSettled_cons hmarkup, settles_iff drop value, Bool.and_eq_true]
      simp [settles_nil, and_assoc]

end

/-! ## Void elements -/

mutual

/-- Void elements in a tree in place have no children. -/
theorem Node.voidsChildless_of_isPlaced (names : List String) : (node : Node) →
    node.isPlaced o names = true → node.voidsChildless = true
  | .text _, _ => rfl
  | .comment _, _ => rfl
  | .element tag attributes children, h => by
    simp only [Node.isPlaced, Bool.and_eq_true, Bool.or_eq_true, Bool.not_eq_true'] at h
    rw [Node.voidsChildless, Bool.and_eq_true]
    obtain ⟨-, ⟨-, hempty⟩ | ⟨⟨⟨hholds, -⟩, -⟩, hchildren⟩⟩ := h
    · rw [List.isEmpty_iff.1 hempty]
      exact ⟨by simp, rfl⟩
    · rw [void_of_holdsInPlace hholds]
      exact ⟨rfl, voidsChildless_of_arePlaced (tag :: names) children hchildren⟩

/-- Void elements in trees in place have no children. -/
theorem voidsChildless_of_arePlaced (names : List String) : (ns : List Node) →
    arePlaced o names ns = true → voidsChildless ns = true
  | [], _ => rfl
  | node :: more, h => by
    rw [arePlaced, Bool.and_eq_true, Bool.and_eq_true] at h
    rw [voidsChildless, Bool.and_eq_true]
    exact ⟨node.voidsChildless_of_isPlaced names h.1.1, voidsChildless_of_arePlaced names more h.2⟩

end

/-- The text of some characters holds no elements. -/
theorem voidsChildless_textNodes (s : String) : voidsChildless (textNodes s) = true := by
  unfold textNodes
  split <;> rfl

mutual

/-- Void elements have no children in a tree that is read back, either. -/
theorem Node.voidsChildless_reread (p : Place String) : (node : Node) →
    node.voidsChildless = true → (node.reread o p).voidsChildless = true
  | .text _, _ => rfl
  | .comment _, _ => by rw [Node.reread]; rfl
  | .element tag attributes children, h => by
    rw [Node.voidsChildless, Bool.and_eq_true, Bool.or_eq_true, Bool.not_eq_true'] at h
    obtain ⟨hvoid | hempty, hchildren⟩ := h
    · rw [Node.reread, Node.voidsChildless, hvoid]
      split
      · rfl
      · exact voidsChildless_rereads (p.within tag) children hchildren _ _ _
    · rw [List.isEmpty_iff.1 hempty, reread_of_childless, Node.voidsChildless]
      simp [voidsChildless]

/-- Void elements have no children in trees that are read back, either. -/
theorem voidsChildless_rereads (p : Place String) : (ns : List Node) →
    voidsChildless ns = true → ∀ (drop : Bool) (front gap : List Char),
      voidsChildless (rereads o p drop front gap ns) = true
  | [], _, drop, front, gap => by
    rw [rereads]
    exact voidsChildless_textNodes _
  | node :: more, h, drop, front, gap => by
    rw [voidsChildless, Bool.and_eq_true] at h
    cases hmarkup : node.isText with
    | true =>
      obtain ⟨text, rfl⟩ := Node.exists_eq_text hmarkup
      rw [rereads]
      exact voidsChildless_rereads p more h.2 _ _ _
    | false =>
      rw [rereads_cons hmarkup, voidsChildless_append, voidsChildless_textNodes, voidsChildless,
        node.voidsChildless_reread p h.1, voidsChildless_rereads p more h.2]
      rfl

end

end Trees

end MarkupOutline
