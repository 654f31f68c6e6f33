import MarkupOutline.Proofs.Reading.Edges

/-!
# Trimming nodes

Where the text at the top level is kept as it stands, trimming a rendering takes white space off the
text at the two edges of a fragment, and so does `trimEdges` on its nodes. Nodes in place stay in
place, are settled as before, and have the same outline but for white space around it.
-/

namespace MarkupOutline

open Text Html

/-- Nodes without the white space that a text in front of them begins with. -/
def trimFront : List Node → List Node
  | .text value :: more => textNodes (String.ofList (trimStart value.toList)) ++ more
  | nodes => nodes

/-- Nodes without the white space that a text behind them ends with. -/
def trimBack : List Node → List Node
  | [] => []
  | [.text value] => textNodes (String.ofList (trimEnd value.toList))
  | node :: more => node :: trimBack more

/-- Nodes without the white space that texts at their edges begin and end with. -/
def trimEdges (ns : List Node) : List Node := trimBack (trimFront ns)
section Trimming

variable {o : Options} {names : List String}

/-- White space in front of a text is written as white space, or not at all. -/
theorem exists_writtenText_blank_append {p : Place String} {l : List Char}
    (hl : allBlank l = true) (value : List Char) :
    ∃ b, allBlank b = true ∧
      Layout.writtenText o p (l ++ value) = b ++ Layout.writtenText o p value := by
  unfold Layout.writtenText
  rw [allBlank_append, hl, Bool.true_and, trim_blank_append hl]
  split
  · exact ⟨[], rfl, rfl⟩
  · split
    · exact ⟨l, hl, rfl⟩
    · exact ⟨[], rfl, rfl⟩

/-- White space behind a text is written as white space, or not at all. -/
theorem exists_writtenText_append_blank {p : Place String} {r : List Char}
    (hr : allBlank r = true) (value : List Char) :
    ∃ b, allBlank b = true ∧
      Layout.writtenText o p (value ++ r) = Layout.writtenText o p value ++ b := by
  unfold Layout.writtenText
  rw [allBlank_append, hr, Bool.and_true, trim_append_blank value hr]
  split
  · exact ⟨[], rfl, rfl⟩
  · split
    · exact ⟨r, hr, rfl⟩
    · exact ⟨[], rfl, (List.append_nil _).symm⟩

/-- Nodes that begin with no text are not changed in front. -/
theorem trimFront_of_headText {ns : List Node} (h : headText ns = none) : trimFront ns = ns := by
  cases ns with
  | nil => rfl
  | cons node more =>
    cases node with
    | text value => cases h
    | comment data => rfl
    | element tag attributes children => rfl

/-- A tag or comment behind is not changed. -/
theorem trimBack_singleton {node : Node} (h : node.isText = false) : trimBack [node] = [node] := by
  cases node with
  | text value => cases h
  | comment data => rfl
  | element tag attributes children => rfl

/-- Only the last node is changed behind. -/
theorem trimBack_cons_cons (node next : Node) (more : List Node) :
    trimBack (node :: next :: more) = node :: trimBack (next :: more) := by
  rw [trimBack]
  nofun

/-- What is left of a text that is trimmed in front: nothing, or a text that begins visibly. -/
theorem textNodes_trimStart (value : String) :
    (allBlank value.toList = true ∧ textNodes (String.ofList (trimStart value.toList)) = []) ∨
      ∃ (kept : String) (l : List Char), StartsVisibly kept.toList ∧
        textNodes (String.ofList (trimStart value.toList)) = [.text kept] ∧
        value.toList = l ++ kept.toList ∧ allBlank l = true := by
  obtain ⟨l, heq, hl, hnil | hstarts⟩ := exists_append_trimStart value.toList
  · refine .inl ⟨?_, by rw [hnil]; rfl⟩
    rw [heq, hnil, List.append_nil]
    exact hl
  · have hne : trimStart value.toList ≠ [] := by
      obtain ⟨c, rest, h, -⟩ := hstarts
      rw [h]
      exact List.cons_ne_nil c rest
    refine .inr ⟨String.ofList (trimStart value.toList), l, ?_, textNodes_of_ne_nil hne, ?_, hl⟩
    · rwa [String.toList_ofList]
    · rwa [String.toList_ofList]

/-- What is left of a text that is trimmed behind: nothing, or a text that ends visibly. -/
theorem textNodes_trimEnd (value : String) :
    (allBlank value.toList = true ∧ textNodes (String.ofList (trimEnd value.toList)) = []) ∨
      ∃ (kept : String) (r : List Char), EndsVisibly kept.toList ∧
        textNodes (String.ofList (trimEnd value.toList)) = [.text kept] ∧
        value.toList = kept.toList ++ r ∧ allBlank r = true := by
  obtain ⟨r, heq, hr, hnil | hends⟩ := exists_append_trimEnd value.toList
  · refine .inl ⟨?_, by rw [hnil]; rfl⟩
    rw [heq, hnil]
    exact hr
  · have hne : trimEnd value.toList ≠ [] := by
      obtain ⟨before, c, h, -⟩ := hends
      rw [h]
      simp
    refine .inr ⟨String.ofList (trimEnd value.toList), r, ?_, textNodes_of_ne_nil hne, ?_, hr⟩
    · rwa [String.toList_ofList]
    · rwa [String.toList_ofList]

/-- What trimming in front keeps of nodes in place. -/
theorem trimFront_spec {ns : List Node} (hescape : o.escapeInnerText = true)
    (hplaced : arePlaced o names ns = true) :
    arePlaced o names (trimFront ns) = true ∧
      (∀ value, headText (trimFront ns) = some value → StartsVisibly value.toList) ∧
      areSettled o Place.topLevel false (trimFront ns) = areSettled o Place.topLevel false ns ∧
      trim (outlines o Place.topLevel (trimFront ns)) = trim (outlines o Place.topLevel ns) := by
  by_cases hhead : headText ns = none
  · -- Without text in front nothing changes.
    rw [trimFront_of_headText hhead, hhead]
    exact ⟨hplaced, nofun, rfl, rfl⟩
  · obtain ⟨value, more, rfl⟩ : ∃ value more, ns = .text value :: more := by
      unfold headText at hhead
      split at hhead
      · exact ⟨_, _, rfl⟩
      · exact absurd rfl hhead
    rw [arePlaced, Bool.and_eq_true, Bool.and_eq_true] at hplaced
    obtain ⟨⟨hnode, hadjacent⟩, hmore⟩ := hplaced
    have hhead' : headText more = none := by simpa [Node.isText] using hadjacent
    rw [trimFront]
    rcases textNodes_trimStart value with
      ⟨hblank, hnil⟩ | ⟨kept, l, hstarts, hkept, hvalue, hl⟩
    · rw [hnil, List.nil_append, hhead', areSettled, outlines, Node.outline_text hescape,
        (writtenText_eq_nil_iff value.toList).2 hblank]
      refine ⟨hmore, nofun, ?_, rfl⟩
      simp [Place.settles, hblank]
    · obtain ⟨b, hb, hwritten⟩ :=
        exists_writtenText_blank_append (o := o) (p := Place.topLevel) hl kept.toList
      rw [← hvalue] at hwritten
      rw [hkept, List.singleton_append]
      refine ⟨?_, fun value' hvalue' => ?_, ?_, ?_⟩
      · rw [Node.isPlaced, hvalue, List.all_append, Bool.and_eq_true] at hnode
        rw [arePlaced, hmore, hhead', Node.isPlaced, hnode.2]
        rfl
      · rwa [← Option.some.inj hvalue']
      · rw [areSettled, areSettled]
        simp [Place.settles, hvalue, hl]
      · rw [outlines, outlines, Node.outline_text hescape, Node.outline_text hescape, hwritten,
          escape_append, List.append_assoc, trim_blank_append ((allBlank_escape b).trans hb)]

/-- Nodes that begin with no text begin with the same node when they are trimmed behind. -/
theorem head?_trimBack {ns : List Node} (h : headText ns = none) :
    (trimBack ns).head? = ns.head? := by
  match ns, h with
  | [], _ => rfl
  | [node], h => rw [trimBack_singleton (isText_eq_false_of_headText h)]
  | node :: next :: more, _ => rw [trimBack_cons_cons]; rfl

/-- Nodes that begin with no text begin with none when they are trimmed behind, either. -/
theorem headText_trimBack {ns : List Node} (h : headText ns = none) :
    headText (trimBack ns) = none := by
  have hhead := head?_trimBack h
  cases hback : trimBack ns with
  | nil => rfl
  | cons node rest =>
    rw [hback] at hhead
    cases ns with
    | nil => cases hhead
    | cons first more =>
      obtain rfl : node = first := Option.some.inj hhead
      exact headText_eq_none_of_isText (isText_eq_false_of_headText h) rest

/-- What trimming behind keeps of nodes in place: it brings in no text that ends in white space,
settles nothing, and leaves out white space only. -/
structure TrimsBack (o : Options) (p : Place String) (names : List String) (ns : List Node) :
    Prop where
  placed : arePlaced o names (trimBack ns) = true
  back : ∀ value, (trimBack ns).getLast? = some (.text value) → EndsVisibly value.toList
  settled : areSettled o p false (trimBack ns) = areSettled o p false ns
  outlines_eq : ∃ b, allBlank b = true ∧ outlines o p ns = outlines o p (trimBack ns) ++ b

namespace TrimsBack

variable {p : Place String}

/-- A text by itself is trimmed behind. -/
theorem text (hescape : o.escapeInnerText = true) {value : String}
    (hplaced : arePlaced o names [.text value] = true) : TrimsBack o p names [.text value] := by
  have hsettled : ∀ v : String, areSettled o p false [.text v] = true := by
    intro v
    simp [areSettled, Place.settles]
  have houtline : ∀ v : String,
      outlines o p [.text v] = escape (Layout.writtenText o p v.toList) := by
    intro v
    rw [outlines, outlines, Node.outline_text hescape, List.append_nil]
  rcases textNodes_trimEnd value with ⟨hblank, hnil⟩ | ⟨kept, r, hends, hkept, hvalue, hr⟩
  · have htrim : trimBack [.text value] = [] := hnil
    refine ⟨?_, ?_, ?_, [], rfl, ?_⟩ <;> rw [htrim]
    · rfl
    · intro value' hvalue
      cases hvalue
    · rw [hsettled, areSettled]
    · rw [houtline, (writtenText_eq_nil_iff value.toList).2 hblank]
      rfl
  · obtain ⟨b, hb, hwritten⟩ := exists_writtenText_append_blank (o := o) (p := p) hr kept.toList
    rw [← hvalue] at hwritten
    have htrim : trimBack [.text value] = [.text kept] := hkept
    refine ⟨?_, ?_, ?_, escape b, (allBlank_escape b).trans hb, ?_⟩ <;> rw [htrim]
    · simp only [arePlaced, Node.isPlaced, hvalue, List.all_append, Bool.and_eq_true] at hplaced
      simp [arePlaced, Node.isPlaced, hplaced.1.1.1, headText]
    · intro value' hvalue'
      rwa [← Node.text.inj (Option.some.inj hvalue')]
    · rw [hsettled, hsettled]
    · rw [houtline, houtline, hwritten, escape_append]

/-- A tag or comment by itself stays as it is. -/
theorem markup {node : Node} (hmarkup : node.isText = false)
    (hplaced : arePlaced o names [node] = true) : TrimsBack o p names [node] := by
  have htrim := trimBack_singleton hmarkup
  refine ⟨?_, fun value hvalue => ?_, congrArg _ htrim, [], rfl, ?_⟩
  · rwa [htrim]
  · rw [htrim] at hvalue
    obtain rfl : node = .text value := Option.some.inj hvalue
    cases hmarkup
  · rw [htrim, List.append_nil]

variable {node next : Node} {more : List Node}

/-- The end of nodes is what stands at the end behind the first one, unless that is nothing. -/
theorem back_cons (h : TrimsBack o p names (next :: more))
    (hnode : node.isText = false ∨ trimBack (next :: more) ≠ []) (value : String)
    (hvalue : (trimBack (node :: next :: more)).getLast? = some (.text value)) :
    EndsVisibly value.toList := by
  rw [trimBack_cons_cons, List.getLast?_cons] at hvalue
  refine h.back value ?_
  cases hlast : (trimBack (next :: more)).getLast? with
  | none =>
    rw [hlast, Option.getD_none] at hvalue
    obtain rfl : node = .text value := Option.some.inj hvalue
    exact absurd (List.getLast?_eq_none_iff.1 hlast) (hnode.resolve_left nofun)
  | some last =>
    rw [hlast] at hvalue
    exact hvalue

/-- White space that is left out behind nodes is left out behind one more. -/
theorem outlines_cons (h : TrimsBack o p names (next :: more)) :
    ∃ b, allBlank b = true ∧ outlines o p (node :: next :: more) =
      outlines o p (trimBack (node :: next :: more)) ++ b := by
  obtain ⟨b, hb, heq⟩ := h.outlines_eq
  refine ⟨b, hb, ?_⟩
  rw [trimBack_cons_cons, outlines, heq, outlines, List.append_assoc]

/-- A text in front of other nodes stays as it is. -/
theorem cons_text (h : TrimsBack o p names (next :: more)) {value : String}
    (hnode : (Node.text value).isPlaced o names = true) (hhead : headText (next :: more) = none) :
    TrimsBack o p names (.text value :: next :: more) := by
  have hfirst := head?_trimBack hhead
  have hne : trimBack (next :: more) ≠ [] := by
    intro hnil
    rw [hnil] at hfirst
    cases hfirst
  refine ⟨?_, h.back_cons (.inr hne), ?_, h.outlines_cons⟩ <;> rw [trimBack_cons_cons]
  · rw [arePlaced, hnode, headText_trimBack hhead, h.placed]
    rfl
  · rw [areSettled, areSettled, h.settled, Place.settles, Place.settles, hfirst]

/-- A tag or comment in front of other nodes stays as it is. -/
theorem cons_markup (h : TrimsBack o p names (next :: more))
    (hnode : node.isPlaced o names = true) (hmarkup : node.isText = false) :
    TrimsBack o p names (node :: next :: more) := by
  refine ⟨?_, h.back_cons (.inl hmarkup), ?_, h.outlines_cons⟩ <;> rw [trimBack_cons_cons]
  · rw [arePlaced, hnode, h.placed, hmarkup]
    rfl
  · rw [areSettled_cons hmarkup, areSettled_cons hmarkup, h.settled]

end TrimsBack

/-- Nodes in place can be trimmed behind. -/
theorem trimsBack_of_arePlaced (hescape : o.escapeInnerText = true) (p : Place String)
    {ns : List Node} (hplaced : arePlaced o names ns = true) : TrimsBack o p names ns := by
  induction ns with
  | nil => exact ⟨rfl, nofun, rfl, [], rfl, rfl⟩
  | cons node rest ih =>
    cases rest with
    | nil =>
      cases hmarkup : node.isText with
      | false => exact TrimsBack.markup hmarkup hplaced
      | true =>
        obtain ⟨value, rfl⟩ := Node.exists_eq_text hmarkup
        exact TrimsBack.text hescape hplaced
    | cons next more =>
      rw [arePlaced, Bool.and_eq_true, Bool.and_eq_true] at hplaced
      obtain ⟨⟨hnode, hadjacent⟩, hmore⟩ := hplaced
      cases hmarkup : node.isText with
      | false => exact (ih hmore).cons_markup hnode hmarkup
      | true =>
        obtain ⟨value, rfl⟩ := Node.exists_eq_text hmarkup
        exact (ih hmore).cons_text hnode (by simpa [Node.isText] using hadjacent)

/-- Text in front still begins visibly when nodes are trimmed behind. -/
theorem startsVisibly_trimBack {ns : List Node}
    (h : ∀ value, headText ns = some value → StartsVisibly value.toList) (value : String)
    (hvalue : headText (trimBack ns) = some value) : StartsVisibly value.toList := by
  match ns, h with
  | [], _ => cases hvalue
  | node :: next :: more, h =>
    rw [trimBack_cons_cons] at hvalue
    cases node with
    | text first =>
      rw [← Option.some.inj hvalue]
      exact h first rfl
    | comment data => cases hvalue
    | element tag attributes children => cases hvalue
  | [node], h =>
    cases hmarkup : node.isText with
    | false =>
      rw [trimBack_singleton hmarkup, headText_eq_none_of_isText hmarkup] at hvalue
      cases hvalue
    | true =>
      obtain ⟨whole, rfl⟩ := Node.exists_eq_text hmarkup
      rw [trimBack] at hvalue
      rcases textNodes_trimEnd whole with
        ⟨-, hnil⟩ | ⟨kept, r, ⟨before, c, hends, -⟩, hkept, heq, -⟩
      · rw [hnil] at hvalue
        cases hvalue
      · rw [hkept] at hvalue
        obtain rfl : kept = value := Option.some.inj hvalue
        have hstarts := h whole rfl
        rw [heq] at hstarts
        exact hstarts.of_append (by simp [hends])

/-- Nodes in place have trimmed edges once these are trimmed. -/
theorem isEdged_trimEdges {ns : List Node} (hescape : o.escapeInnerText = true)
    (hplaced : arePlaced o names ns = true) : IsEdged (trimEdges ns) := by
  obtain ⟨hplaced', hfront, -, -⟩ := trimFront_spec hescape hplaced
  exact ⟨startsVisibly_trimBack hfront,
    (trimsBack_of_arePlaced hescape Place.topLevel hplaced').back⟩

/-- Nodes in place stay in place when their edges are trimmed. -/
theorem arePlaced_trimEdges {ns : List Node} (hescape : o.escapeInnerText = true)
    (hplaced : arePlaced o names ns = true) : arePlaced o names (trimEdges ns) = true :=
  (trimsBack_of_arePlaced hescape Place.topLevel (trimFront_spec hescape hplaced).1).placed

/-- Trimming the edges of nodes in place does not settle them. -/
theorem areSettled_trimEdges {ns : List Node} (hescape : o.escapeInnerText = true)
    (hplaced : arePlaced o names ns = true) :
    areSettled o Place.topLevel false (trimEdges ns) = areSettled o Place.topLevel false ns := by
  obtain ⟨hplaced', -, hsettled, -⟩ := trimFront_spec hescape hplaced
  exact (trimsBack_of_arePlaced hescape Place.topLevel hplaced').settled.trans hsettled

/-- Nodes in place have the same outline when their edges are trimmed, but for white space around
it. -/
theorem trim_outlines_trimEdges {ns : List Node} (hescape : o.escapeInnerText = true)
    (hplaced : arePlaced o names ns = true) :
    trim (outlines o Place.topLevel (trimEdges ns)) = trim (outlines o Place.topLevel ns) := by
  obtain ⟨hplaced', -, -, htrim⟩ := trimFront_spec hescape hplaced
  obtain ⟨b, hb, heq⟩ := (trimsBack_of_arePlaced hescape Place.topLevel hplaced').outlines_eq
  rw [← htrim, heq, trim_append_blank _ hb]
  rfl
end Trimming

end MarkupOutline
