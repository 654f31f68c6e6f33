import MarkupOutline.Proofs.Reading.Closing

/-!
# Rules for end tags in place

The end tag of the innermost element finishes it, in every mode (`IsOrderly.endStep`): whatever the
rules of the mode search for, they find that element first. The end tag of an element that never has
content finds nothing to finish (`IsOrderly.endStep_empty`).
-/

namespace MarkupOutline.Html.Construction

variable {c : Construction} {f g : Frame} {below : Stack}

namespace IsOrderly

/-! ## Flow content -/

/-- In flow content the end tag of the innermost element finishes it. -/
theorem bodyEnd_eq (h : c.IsOrderly) (hstack : c.stack = f :: g :: below)
    (hplaced : unplacedTags.contains f.name = false) (hmode : f.name ∉ modeTags) :
    c.bodyEnd f.name = c.closed f g below := by
  have hself : [f.name].contains f.name = true := by simp
  have hne : ∀ other ∈ unplacedTags, f.name ≠ other :=
    fun _ hother => (ne_of_mem_of_not_mem hother (contains_eq_false_iff.1 hplaced)).symm
  have hbody := hne "body" (by decide)
  have hhtml := hne "html" (by decide)
  have hbr := hne "br" (by decide)
  have hkeep := h.modeWithin_eq_mode hstack hmode
  unfold bodyEnd
  simp only [hbody, hhtml, hbr, Bool.false_eq_true, if_false, Bool.or_false, decide_false]
  -- The rules are tried in their order. Each of them finds the innermost element first.
  by_cases hending : endingTags.contains f.name = true
  · rw [if_pos hending, h.endWithin_eq hstack hself, h.closed_of_mem hstack endingTags hending
      (by decide)]
  rw [if_neg hending]
  by_cases hform : f.name = "form"
  · have hsealing : f.name ∉ sealingTags := by rw [hform]; decide
    rw [if_pos hform, h.endForm_eq hstack hform, Construction.closed,
      if_neg (mt List.contains_iff_mem.1 hsealing),
      h.filter_formatting_eq_self hstack hsealing (by rw [hform]; decide),
      if_pos (h.form f (by simp [hstack]) hform), hkeep]
  rw [if_neg hform]
  by_cases hp : f.name = "p"
  · have hwanted : ["p"].contains f.name = true := by simp [hp]
    rw [if_pos hp, h.hasWithin_top hstack hwanted, if_pos rfl, h.closeThrough_eq hstack hwanted,
      h.closed_of_mem hstack ["p"] hwanted (by decide)]
  rw [if_neg hp]
  by_cases hli : f.name = "li"
  · have hwanted : ["li"].contains f.name = true := by simp [hli]
    rw [if_pos hli, h.endWithin_eq hstack hwanted, h.closed_of_mem hstack ["li"] hwanted
      (by decide)]
  rw [if_neg hli]
  by_cases hdescription : descriptionTags.contains f.name = true
  · rw [if_pos hdescription, h.endWithin_eq hstack hself,
      h.closed_of_mem hstack descriptionTags hdescription (by decide)]
  rw [if_neg hdescription]
  by_cases hheading : headingTags.contains f.name = true
  · rw [if_pos hheading, h.endWithin_eq hstack hheading,
      h.closed_of_mem hstack headingTags hheading (by decide)]
  rw [if_neg hheading]
  have hiff : (decide (f.name = "a") || decide (f.name = "nobr") ||
      formattingTags.contains f.name) = true ↔ f.name ∈ formattingNames := by
    simp [formattingNames, or_assoc]
  by_cases hformatting : f.name ∈ formattingNames
  · have hsealing := not_mem_sealingTags hformatting
    rw [if_pos (hiff.2 hformatting), h.endFormatting_eq hstack hsealing, Construction.closed,
      if_neg (mt List.contains_iff_mem.1 hsealing), if_neg (h.form_ne hstack hform), hkeep]
  rw [if_neg (mt hiff.1 hformatting)]
  by_cases hsealed : sealedTags.contains f.name = true
  · have hsealing : f.name ∈ sealingTags :=
      List.mem_append_right ("caption" :: cells) (List.contains_iff_mem.1 hsealed)
    rw [if_pos hsealed, h.hasWithin_top hstack hself, if_pos rfl, h.closeThrough_eq hstack hself,
      h.closed_of_sealing hstack hsealing, hkeep]
    rfl
  rw [if_neg hsealed, h.closeNamed_eq hstack,
    h.closed_of_mem hstack [f.name] hself]
  have hsealing : f.name ∉ sealingTags := by
    intro hmem
    rcases List.mem_append.1 (hmem : f.name ∈ ("caption" :: cells) ++ sealedTags) with hmem | hmem
    · exact hmode ((by decide : ∀ name ∈ "caption" :: cells, name ∈ modeTags) _ hmem)
    · exact hsealed (List.contains_iff_mem.2 hmem)
  simp [hform, hformatting, hsealing, hmode]

/-- The end tag of an element that never has content finishes nothing. -/
theorem bodyEnd_empty (h : c.IsOrderly) {name : String} (hempty : emptyTags.contains name = true)
    (hbr : name ≠ "br") : c.bodyEnd name = c := by
  have hmem := List.contains_iff_mem.1 hempty
  have hlist := contains_eq_false_of_mem hmem
  have hne : ∀ other : String, other ∉ emptyTags → name ≠ other :=
    fun _ hother => ne_of_mem_of_not_mem hmem hother
  -- No element of this name is ever open.
  have hfind : c.stack.findWithin Frame.isSpecial (fun k => k.isHtml name) = none := by
    rw [Stack.findWithin, h.plain.openFrames_eq, Option.filter_eq_none_iff]
    intro f hf hname
    have hopen := List.mem_of_find?_eq_some hf
    rw [(h.plain f hopen).isHtml_eq, decide_eq_true_eq] at hname
    exact h.nested.not_mem_emptyTags (List.mem_map_of_mem hopen) (hname ▸ hmem)
  unfold bodyEnd
  simp only [hlist endingTags (by decide), hlist descriptionTags (by decide),
    hlist headingTags (by decide), hlist formattingTags (by decide), hlist sealedTags (by decide),
    hne "body" (by decide), hne "html" (by decide), hne "form" (by decide), hne "p" (by decide),
    hne "li" (by decide), hne "a" (by decide), hne "nobr" (by decide), hbr, decide_false,
    Bool.or_false, Bool.false_eq_true, if_false]
  rw [closeNamed, hfind]

/-! ## Parts of tables and selection lists -/

/-- In a selection list the end tag of an option or of a group finishes it. -/
theorem selectEnd_eq (h : c.IsOrderly) (hstack : c.stack = f :: g :: below)
    (hname : f.name = "option" ∨ f.name = "optgroup") :
    c.selectEnd f.name = c.closed f g below := by
  have hclosed := h.closed_of_mem hstack ["option", "optgroup"] (by simpa using hname) (by decide)
  have hcurrent : ∀ name, c.currentIs (·.isHtml name) = decide (f.name = name) := by
    intro name
    rw [h.currentIs_isHtml, names_eq hstack, List.head?_cons]
    simp
  rw [hclosed, ← closeCurrent_eq h.plain hstack]
  rcases hname with hname | hname
  · rw [hname, selectEnd, if_pos rfl, hcurrent, hname, if_pos (by decide)]
  · have hoption : c.currentIs (·.isHtml "option") = false := by
      rw [hcurrent, hname]
      decide
    rw [hname, selectEnd, if_neg (by decide), if_pos rfl]
    dsimp only
    rw [hoption, Bool.false_and, if_neg Bool.false_ne_true, hcurrent, hname, if_pos (by decide)]

/-- The end tag of a selection list finishes it. -/
theorem endStep_select (h : c.IsOrderly) (hstack : c.stack = f :: g :: below)
    (hname : f.name = "select") : c.modeStep (.endTag f.name) = .done (c.closed f g below) := by
  have hself : ["select"].contains f.name = true := by simp [hname]
  have hend : c.selectEnd "select" = c.closed f g below := by
    rw [selectEnd, if_neg (by decide), if_neg (by decide), h.hasWithin_top hstack hself,
      if_pos (by decide), endSelect, h.closeThrough_eq hstack hself,
      resetMode_eq (h.plain_closed hstack), h.closed_eq hstack (by rw [hname]; decide)]
    rfl
  have hmode := h.mode_mem
  rw [names_eq hstack, hname, ground] at hmode
  -- It is in one of two modes, and in a table none of the tags that break it off is its own.
  rcases List.mem_cons.1 hmode with hmode | hmode
  · rw [modeStep, hmode, hname, ← hend]
    rfl
  · rw [modeStep, List.mem_singleton.1 hmode, hname, ← hend]
    rfl

/-- The end tag of a table finishes it. -/
theorem endStep_table (h : c.IsOrderly) (hstack : c.stack = f :: g :: below)
    (hname : f.name = "table") : c.modeStep (.endTag f.name) = .done (c.closed f g below) := by
  have hself : ["table"].contains f.name = true := by simp [hname]
  have hmode : c.mode = .table := by
    rw [h.mode_eq, names_eq hstack, hname]
    rfl
  rw [modeStep, hmode, hname]
  dsimp only
  rw [tableToken, tableEnd, if_pos rfl, h.hasWithin_top hstack hself, if_pos rfl, endTable,
    h.closeThrough_eq hstack hself, resetMode_eq (h.plain_closed hstack),
    h.closed_eq hstack (by rw [hname]; decide)]
  rfl

/-- The end tag of a caption finishes it. -/
theorem endStep_caption (h : c.IsOrderly) (hstack : c.stack = f :: g :: below)
    (hname : f.name = "caption") : c.modeStep (.endTag f.name) = .done (c.closed f g below) := by
  have hself : ["caption"].contains f.name = true := by simp [hname]
  have hmode : c.mode = .caption := by
    rw [h.mode_eq, names_eq hstack, hname]
    rfl
  have haround := h.modeWithin_mem_homeOf hstack (by rw [hname]; decide)
  rw [hname] at haround
  rw [modeStep, hmode, hname]
  dsimp only
  rw [captionToken, if_pos rfl, h.hasWithin_top hstack hself, if_pos rfl, endCaption,
    h.closeThrough_eq hstack hself, h.closed_of_sealing hstack (by rw [hname]; decide),
    List.mem_singleton.1 haround]

/-- The end tag of a group of columns finishes it. -/
theorem endStep_colgroup (h : c.IsOrderly) (hstack : c.stack = f :: g :: below)
    (hname : f.name = "colgroup") : c.modeStep (.endTag f.name) = .done (c.closed f g below) := by
  have hmode : c.mode = .columnGroup := by
    rw [h.mode_eq, names_eq hstack, hname]
    rfl
  have haround := h.modeWithin_mem_homeOf hstack (by rw [hname]; decide)
  rw [hname] at haround
  have hcurrent : c.currentIs (·.isHtml "colgroup") = true := by
    rw [h.currentIs_isHtml, names_eq hstack, hname]
    rfl
  rw [modeStep, hmode, hname]
  dsimp only
  rw [columnToken, if_pos rfl, leaveColumns, hcurrent, if_pos rfl, closeCurrent_eq h.plain hstack,
    h.closed_eq hstack (by rw [hname]; decide), List.mem_singleton.1 haround]

/-- The end tag of a group of rows finishes it. -/
theorem endStep_rowGroup (h : c.IsOrderly) (hstack : c.stack = f :: g :: below)
    (hname : rowGroups.contains f.name = true) :
    c.modeStep (.endTag f.name) = .done (c.closed f g below) := by
  have hself : [f.name].contains f.name = true := by simp
  have hmode : c.mode = .tableBody := by
    rw [h.mode_eq, names_eq hstack, modeWithin_rowGroup hname]
  have hrules : ∀ name ∈ rowGroups, (name ≠ "option" ∧ name ≠ "optgroup") ∧
      homeOf name = .table ∧ name ∉ "form" :: (formattingNames ++ sealingTags) := by decide
  obtain ⟨hother, hhome, hplain⟩ := hrules f.name (List.contains_iff_mem.1 hname)
  have haround := h.modeWithin_mem_homeOf hstack hother
  rw [hhome] at haround
  rw [modeStep, hmode]
  dsimp only
  rw [rowGroupToken, if_pos hname, h.hasWithin_top hstack hself, if_pos rfl,
    h.clearTo_eq hstack hname, closeCurrent_eq h.plain hstack, h.closed_eq hstack hplain,
    List.mem_singleton.1 haround]

/-- The end tag of a row finishes it. -/
theorem endStep_row (h : c.IsOrderly) (hstack : c.stack = f :: g :: below)
    (hname : f.name = "tr") : c.modeStep (.endTag f.name) = .done (c.closed f g below) := by
  have hself : ["tr"].contains f.name = true := by simp [hname]
  have hmode : c.mode = .row := by
    rw [h.mode_eq, names_eq hstack, hname]
    rfl
  have haround := h.modeWithin_mem_homeOf hstack (by rw [hname]; decide)
  rw [hname] at haround
  rw [modeStep, hmode, hname]
  dsimp only
  rw [rowToken, if_pos rfl, h.hasWithin_top hstack hself, if_pos rfl, endRow,
    h.clearTo_eq hstack hself, closeCurrent_eq h.plain hstack,
    h.closed_eq hstack (by rw [hname]; decide), List.mem_singleton.1 haround]

/-- The end tag of a cell finishes it. -/
theorem endStep_cell (h : c.IsOrderly) (hstack : c.stack = f :: g :: below)
    (hname : cells.contains f.name = true) :
    c.modeStep (.endTag f.name) = .done (c.closed f g below) := by
  have hself : [f.name].contains f.name = true := by simp
  have hmode : c.mode = .cell := by
    rw [h.mode_eq, names_eq hstack, modeWithin_cell hname]
  have hrules : ∀ name ∈ cells, (name ≠ "option" ∧ name ≠ "optgroup") ∧
      homeOf name = .row ∧ name ∈ sealingTags := by decide
  obtain ⟨hother, hhome, hsealing⟩ := hrules f.name (List.contains_iff_mem.1 hname)
  have haround := h.modeWithin_mem_homeOf hstack hother
  rw [hhome] at haround
  rw [modeStep, hmode]
  dsimp only
  rw [cellToken]
  dsimp only
  rw [if_pos hname, h.hasWithin_top hstack hself, if_pos rfl, h.closeThrough_eq hstack hself,
    h.closed_of_sealing hstack hsealing, List.mem_singleton.1 haround]

/-! ## All end tags -/

/-- The names of elements whose end tags parts of tables have rules for. -/
def partEnds : List String := "table" :: "body" :: "html" :: partTags

/-- In flow content end tags are taken up by the same rules in every mode, apart from those of parts
of tables. -/
theorem modeStep_endTag_of_flow (h : c.IsOrderly) (hground : ground c.names = .flow) {name : String}
    (hname : name ∉ partEnds) : c.modeStep (.endTag name) = .done (c.bodyEnd name) := by
  have hne : ∀ other ∈ partEnds, (name = other) = False :=
    fun _ hother => eq_false (ne_of_mem_of_not_mem hother hname).symm
  have hlists := contains_eq_false_of_subset hname
  have hmode := h.mode_mem
  rw [hground] at hmode
  simp only [modesIn, List.mem_cons, List.not_mem_nil, or_false] at hmode
  rcases hmode with hmode | hmode | hmode
  · rw [modeStep, hmode]
    rfl
  · rw [modeStep, hmode]
    dsimp only
    unfold captionToken
    simp only [hne "caption" (by decide), hne "table" (by decide), hne "body" (by decide),
      hne "html" (by decide), hlists partTags (by decide), if_false, Bool.false_eq_true,
      decide_false, Bool.or_false]
    rfl
  · rw [modeStep, hmode]
    dsimp only
    unfold cellToken
    simp only [hlists cells (by decide), hlists rowGroups (by decide), hne "table" (by decide),
      hne "tr" (by decide), hlists ["body", "caption", "col", "colgroup", "html"] (by decide),
      if_false, Bool.false_eq_true, decide_false, Bool.or_false]
    rfl

/-- In a selection list the end tags of options and of groups are taken up by the same rules in both
modes. -/
theorem modeStep_endTag_of_options (h : c.IsOrderly) (hground : ground c.names = .options)
    {name : String} (hname : name = "option" ∨ name = "optgroup") :
    c.modeStep (.endTag name) = .done (c.selectEnd name) := by
  have hmode := h.mode_mem
  rw [hground] at hmode
  rcases List.mem_cons.1 hmode with hmode | hmode
  · rw [modeStep, hmode]
    rfl
  · have hbreaks : selectBreakers.contains name = false := by rcases hname with rfl | rfl <;> decide
    rw [modeStep, List.mem_singleton.1 hmode]
    dsimp only
    rw [selectInTableToken, hbreaks, if_neg Bool.false_ne_true]
    rfl

/-- The end tag of the innermost element finishes it. -/
theorem endStep (h : c.IsOrderly) (hstack : c.stack = f :: g :: below) :
    c.modeStep (.endTag f.name) = .done (c.closed f g below) := by
  by_cases hmode : f.name ∈ modeTags
  · simp only [modeTags, List.mem_append, List.mem_cons, List.not_mem_nil, or_false] at hmode
    rcases hmode with (hone | hgroup) | hcell
    · rcases hone with hname | hname | hname | hname | hname
      · exact h.endStep_select hstack hname
      · exact h.endStep_table hstack hname
      · exact h.endStep_caption hstack hname
      · exact h.endStep_colgroup hstack hname
      · exact h.endStep_row hstack hname
    · exact h.endStep_rowGroup hstack (List.contains_iff_mem.2 hgroup)
    · exact h.endStep_cell hstack (List.contains_iff_mem.2 hcell)
  -- An element without a mode of its own holds what it stands in.
  obtain ⟨-, hopens⟩ := h.nested_outer hstack
  have hinside : ground c.names = ground (g.name :: below.names) := by
    rw [names_eq hstack]
    exact ground_cons_eq hopens hmode
  rcases ground_of_opensInPlace hopens with hground | ⟨hground, hoption⟩
  · rw [homeOf_eq_flow hmode] at hground
    have hplaced : unplacedTags.contains f.name = false := by
      rw [opensInPlace, hground, Bool.and_eq_true, Bool.not_eq_true'] at hopens
      exact hopens.1
    have hends : f.name ∉ partEnds := by
      intro hmem
      rcases (by decide : ∀ n ∈ partEnds, n ∈ unplacedTags ∨ n ∈ modeTags) f.name hmem with
        hout | hout
      · exact contains_eq_false_iff.1 hplaced hout
      · exact hmode hout
    rw [h.modeStep_endTag_of_flow (hinside.trans hground) hends, h.bodyEnd_eq hstack hplaced hmode]
  · rw [h.modeStep_endTag_of_options (hinside.trans hground) hoption, h.selectEnd_eq hstack hoption]

/-- The end tag of an element that never has content finishes nothing, wherever the element
stands. -/
theorem endStep_empty (h : c.IsOrderly) {o : Options} {name : String}
    (hstands : standsInPlace o c.names name = true) (hbr : name ≠ "br") :
    c.modeStep (.endTag name) = .done c := by
  unfold standsInPlace at hstands
  cases hground : ground c.names with
  | flow =>
    rw [hground, Bool.and_eq_true, Bool.and_eq_true] at hstands
    have hempty := hstands.1.1
    have hends : name ∉ partEnds :=
      (by decide : ∀ n ∈ emptyTags, n ∉ partEnds) name (List.contains_iff_mem.1 hempty)
    rw [h.modeStep_endTag_of_flow hground hends, h.bodyEnd_empty hempty hbr]
  | columns =>
    rw [hground, decide_eq_true_eq] at hstands
    have hmode := h.mode_mem
    rw [hground] at hmode
    rw [modeStep, List.mem_singleton.1 hmode, hstands]
    rfl
  | table | rows | row | options =>
    rw [hground] at hstands
    cases hstands

end IsOrderly

end MarkupOutline.Html.Construction
