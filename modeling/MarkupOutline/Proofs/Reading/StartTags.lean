import MarkupOutline.Proofs.Reading.Opening

/-!
# Rules for start tags in place

The start tag of an element that opens in place opens it and finishes nothing, in every mode
(`IsOrderly.startStep`), and an element that never has content becomes a child of the innermost
element at once (`IsOrderly.startStep_empty`).
-/

namespace MarkupOutline.Html.Construction

variable {c : Construction} {t : Tag}

namespace IsOrderly

/-! ## Flow content -/

/-- Where no item of the same list is open and no paragraph ends, an item is simply opened. -/
theorem openItem_eq (h : c.IsOrderly) {wanted : List String} (hp : endsParagraph c.names = false)
    (hitem : isWithin stopsItem wanted c.names = false) :
    c.openItem wanted t = c.openTag t := by
  unfold openItem
  dsimp only
  rw [h.hasWithin_eq _ stopsItem wanted fun f hf => by
    rw [hf.isHtmlIn_eq, Frame.isSpecial, hf.space_eq, stopsItem], hitem]
  rw [if_neg (by decide), h.closeParagraph_eq hp]

/-- A formatting element is opened and entered. -/
theorem openFormatting_eq (h : c.IsOrderly) :
    c.openFormatting t = (c.openTag t).addFormatting t := by
  rw [openFormatting, h.reconstruct_eq]

/-- Where no link is open that a new one would end, a link is a formatting element like others. -/
theorem openLink_eq (h : c.IsOrderly)
    (hlink : isWithin sealingTags.contains ["a"] c.names = false) :
    c.openLink t = (c.openTag t).addFormatting t := by
  have hnone : c.recentFormatting.find? (·.hasName "a") = none := by
    rw [List.find?_eq_none]
    intro e he hname
    have hopen := h.formatting.isWithin_of_recent he hname
    change isWithin sealingTags.contains ["a"] c.names = true at hopen
    rw [hlink] at hopen
    cases hopen
  rw [openLink, hnone]
  exact h.openFormatting_eq

/-- A selection list changes the mode, which depends on whether it stands in a table. -/
theorem openSelect_eq (h : c.IsOrderly) (hground : ground c.names = .flow)
    (hselect : t.name = "select") : c.openSelect t = c.opened t := by
  have htable := h.nested.isTableMode_eq hground
  rw [← h.mode_eq] at htable
  rw [openSelect, h.reconstruct_eq, opened_eq (by rw [hselect]; decide), hselect, htable]
  rfl

/-- No form is noted where none is open. -/
theorem form_isSome_eq (h : c.IsOrderly) (hnested : c.names.contains "form" = false) :
    c.form.isSome = false := by
  rw [Option.isSome_eq_false_iff, Option.isNone_iff_eq_none, Option.eq_none_iff_forall_ne_some]
  intro id hid
  obtain ⟨f, hf, hname, -⟩ := h.form_open id hid
  have hopen : "form" ∈ c.names := List.mem_map.2 ⟨f, hf, hname⟩
  exact contains_eq_false_iff.1 hnested hopen

/-- The rules for the start tags of the elements that are not left out. -/
theorem bodyStart_of_unplaced (h : c.IsOrderly)
    (hunplaced : unplacedTags.contains t.name = false) :
    c.bodyStart t =
      if blockTags.contains t.name then c.closeParagraph.openTag t
      else if headingTags.contains t.name then
        (if c.closeParagraph.currentIs (·.isHtmlIn headingTags) then c.closeParagraph.closeCurrent
          else c.closeParagraph).openTag t
      else if t.name = "pre" then { c.closeParagraph.openTag t with dropNewline := true }
      else if t.name = "form" then
        if c.form.isSome then c
        else { c.closeParagraph.openTag t with form := some c.closeParagraph.fresh }
      else if t.name = "li" then c.openItem ["li"] t
      else if descriptionTags.contains t.name then c.openItem descriptionTags t
      else if t.name = "button" then
        (if c.hasWithin scopeBoundary ["button"] then c.closeThrough ["button"]
          else c).reconstruct.openTag t
      else if t.name = "a" then c.openLink t
      else if formattingTags.contains t.name then c.openFormatting t
      else if t.name = "nobr" then
        (if c.hasWithin scopeBoundary ["nobr"] then c.endFormatting "nobr" else c).openFormatting t
      else if sealedTags.contains t.name then (c.openTag t).addMarker
      else if t.name = "table" then { c.closeParagraph.openTag t with mode := .table }
      else if t.name = "select" then c.openSelect t
      else if t.name = "optgroup" || t.name = "option" then
        (if c.currentIs (·.isHtml "option") then c.closeCurrent else c).reconstruct.openTag t
      else if t.name = "rp" || t.name = "rt" then
        (if c.hasWithin scopeBoundary ["ruby"] then c.closeImplied else c).openTag t
      else c.openTag t := by
  have hout := contains_eq_false_iff.1 hunplaced
  have hlists := contains_eq_false_of_subset hout
  have hnames : ∀ name ∈ unplacedTags, (t.name = name) = False :=
    fun _ hname => eq_false (ne_of_mem_of_not_mem hname hout).symm
  unfold bodyStart
  dsimp only
  simp only [hlists ignoredTags (by decide), hlists besideText (by decide),
    hlists withinText (by decide), hlists rawTextTags (by decide), hnames "image" (by decide),
    hnames "hr" (by decide), hnames "listing" (by decide), hnames "plaintext" (by decide),
    hnames "title" (by decide), hnames "textarea" (by decide), hnames "xmp" (by decide),
    hnames "script" (by decide), hnames "math" (by decide), hnames "svg" (by decide),
    Bool.false_eq_true, if_false, Bool.or_false, decide_false, decide_eq_true_eq, h.reconstruct_eq]

/-- In flow content the start tag of an element that opens in place opens it and finishes
nothing. -/
theorem bodyStart_eq (h : c.IsOrderly) (hground : ground c.names = .flow)
    (hopens : opensInPlace c.names t.name = true) : c.bodyStart t = c.opened t := by
  rw [opensInPlace, hground, Bool.and_eq_true, Bool.not_eq_true'] at hopens
  obtain ⟨hunplaced, hnothing⟩ := hopens
  rw [h.bodyStart_of_unplaced hunplaced]
  -- The rules are tried in their order. For each of them `endsNothing` says that what it would
  -- finish is not open.
  unfold endsNothing at hnothing
  by_cases hblock : blockTags.contains t.name = true
  · rw [if_pos hblock, Bool.not_eq_true'] at hnothing
    rw [if_pos hblock, h.closeParagraph_eq hnothing, h.opened_eq_openTag _ hblock (by decide)]
  rw [if_neg hblock] at hnothing ⊢
  by_cases hheading : headingTags.contains t.name = true
  · rw [if_pos hheading, Bool.and_eq_true, Bool.not_eq_true', Bool.not_eq_true'] at hnothing
    obtain ⟨hp, hcurrent⟩ := hnothing
    rw [if_pos hheading, h.closeParagraph_eq hp, h.currentIs_eq, hcurrent, if_neg (by decide),
      h.opened_eq_openTag _ hheading (by decide)]
  rw [if_neg hheading] at hnothing ⊢
  by_cases hpre : t.name = "pre"
  · rw [if_pos hpre, Bool.not_eq_true'] at hnothing
    rw [if_pos hpre, h.closeParagraph_eq hnothing, h.opened_eq_of_pre hpre]
  rw [if_neg hpre] at hnothing ⊢
  by_cases hform : t.name = "form"
  · rw [if_pos hform, Bool.and_eq_true, Bool.not_eq_true', Bool.not_eq_true'] at hnothing
    obtain ⟨hp, hnested⟩ := hnothing
    rw [if_pos hform, h.form_isSome_eq hnested, if_neg (by decide), h.closeParagraph_eq hp,
      h.opened_eq_of_form hform]
  rw [if_neg hform] at hnothing ⊢
  by_cases hli : t.name = "li"
  · rw [if_pos hli, Bool.and_eq_true, Bool.not_eq_true', Bool.not_eq_true'] at hnothing
    rw [if_pos hli, h.openItem_eq hnothing.1 hnothing.2,
      h.opened_eq_openTag ["li"] (by simp [hli]) (by decide)]
  rw [if_neg hli] at hnothing ⊢
  by_cases hdescription : descriptionTags.contains t.name = true
  · rw [if_pos hdescription, Bool.and_eq_true, Bool.not_eq_true', Bool.not_eq_true'] at hnothing
    rw [if_pos hdescription, h.openItem_eq hnothing.1 hnothing.2,
      h.opened_eq_openTag _ hdescription (by decide)]
  rw [if_neg hdescription] at hnothing ⊢
  by_cases hbutton : t.name = "button"
  · rw [if_pos hbutton, Bool.not_eq_true'] at hnothing
    rw [if_pos hbutton, h.hasWithin_scope, hnothing, if_neg (by decide), h.reconstruct_eq,
      h.opened_eq_openTag ["button"] (by simp [hbutton]) (by decide)]
  rw [if_neg hbutton] at hnothing ⊢
  by_cases hlink : t.name = "a"
  · rw [if_pos hlink, Bool.not_eq_true'] at hnothing
    rw [if_pos hlink, h.openLink_eq hnothing, h.opened_eq_addFormatting (by rw [hlink]; decide)]
  rw [if_neg hlink] at hnothing ⊢
  by_cases hformatting : formattingTags.contains t.name = true
  · rw [if_pos hformatting, h.openFormatting_eq, h.opened_eq_addFormatting]
    exact List.mem_cons_of_mem _ (List.mem_cons_of_mem _ (List.contains_iff_mem.1 hformatting))
  rw [if_neg hformatting]
  by_cases hnobr : t.name = "nobr"
  · rw [if_pos hnobr, Bool.not_eq_true'] at hnothing
    rw [if_pos hnobr, h.hasWithin_scope, hnothing, if_neg (by decide), h.openFormatting_eq,
      h.opened_eq_addFormatting (by rw [hnobr]; decide)]
  rw [if_neg hnobr] at hnothing ⊢
  by_cases hsealed : sealedTags.contains t.name = true
  · have hrules : ∀ name ∈ sealedTags, name ∈ sealingTags ∧ name ∉ modeTags := by decide
    obtain ⟨hsealing, hmode⟩ := hrules t.name (List.contains_iff_mem.1 hsealed)
    rw [if_pos hsealed, opened_eq_addMarker hsealing, h.modeWithin_cons_eq hmode]
    rfl
  rw [if_neg hsealed]
  by_cases htable : t.name = "table"
  · rw [if_pos htable, Bool.not_eq_true'] at hnothing
    rw [if_pos htable, h.closeParagraph_eq hnothing, opened_eq (by rw [htable]; decide), htable]
    rfl
  rw [if_neg htable] at hnothing ⊢
  by_cases hselect : t.name = "select"
  · rw [if_pos hselect, h.openSelect_eq hground hselect]
  rw [if_neg hselect]
  -- The others are all opened in the same way.
  have hout := contains_eq_false_iff.1 hunplaced
  have hmode : t.name ∉ modeTags := by
    intro hmem
    have hmem := (by decide : ∀ n ∈ modeTags, n = "table" ∨ n = "select" ∨ n ∈ unplacedTags) _ hmem
    simp [htable, hselect, hout] at hmem
  have hrules : t.name ∉ "form" :: "pre" :: (formattingNames ++ sealingTags) := by
    intro hmem
    have hmem := (by decide : ∀ n ∈ "form" :: "pre" :: (formattingNames ++ sealingTags),
      n = "form" ∨ n = "pre" ∨ n = "a" ∨ n = "nobr" ∨ formattingTags.contains n = true ∨
        sealedTags.contains n = true ∨ n ∈ unplacedTags) _ hmem
    exact hmem.elim hform fun hmem => hmem.elim hpre fun hmem => hmem.elim hlink fun hmem =>
      hmem.elim hnobr fun hmem => hmem.elim hformatting fun hmem => hmem.elim hsealed hout
  have hopened : c.opened t = c.openTag t := by
    rw [opened_eq hrules, h.modeWithin_cons_eq hmode]
    rfl
  rw [hopened]
  by_cases hoption : (decide (t.name = "optgroup") || decide (t.name = "option")) = true
  · rw [if_pos hoption, bne_iff_ne] at hnothing
    rw [if_pos hoption, if_neg (by rwa [h.currentIs_isHtml, decide_eq_true_eq]), h.reconstruct_eq]
  rw [if_neg hoption] at hnothing ⊢
  by_cases hruby : (decide (t.name = "rp") || decide (t.name = "rt")) = true
  · rw [if_pos hruby, Bool.not_eq_true', Bool.and_eq_false_imp] at hnothing
    rw [if_pos hruby, h.hasWithin_scope]
    split
    · next hin => rw [h.closeImplied_eq (hnothing hin)]
    · rfl
  rw [if_neg hruby]

/-- In flow content start tags are taken up by the same rules in every mode, apart from those of
parts of tables. -/
theorem modeStep_startTag_of_flow (h : c.IsOrderly) (hground : ground c.names = .flow)
    (htag : t.name ∉ partTags) : c.modeStep (.startTag t) = .done (c.bodyStart t) := by
  have hpart : ¬ partTags.contains t.name = true := mt List.contains_iff_mem.1 htag
  have hmode := h.mode_mem
  rw [hground] at hmode
  simp only [modesIn, List.mem_cons, List.not_mem_nil, or_false] at hmode
  rcases hmode with hmode | hmode | hmode
  all_goals
    unfold modeStep
    rw [hmode]
    dsimp only
  · rfl
  · rw [captionToken, if_neg hpart]
    rfl
  · rw [cellToken, if_neg hpart]
    rfl

/-! ## Parts of tables and selection lists -/

/-- A part of a table is opened in a table. -/
theorem startStep_table (h : c.IsOrderly) (hground : ground c.names = .table)
    (htag : t.name ∈ "caption" :: "colgroup" :: rowGroups) :
    c.modeStep (.startTag t) = .done (c.opened t) := by
  have hmode := h.mode_mem
  rw [hground] at hmode
  have hclear : c.clearTo ["table"] = c := h.clearTo_holders hground (by decide)
  unfold modeStep
  rw [List.mem_singleton.1 hmode]
  dsimp only
  rw [tableToken, tableStart]
  dsimp only
  rw [hclear]
  rcases List.mem_cons.1 htag with hname | htag
  · rw [if_pos hname, opened_eq_addMarker (by rw [hname]; decide), hname]
    rfl
  rcases List.mem_cons.1 htag with hname | hgroup
  · rw [hname, if_neg (by decide), if_pos rfl, opened_eq (by rw [hname]; decide), hname]
    rfl
  · have hrules : ∀ n ∈ rowGroups, n ≠ "caption" ∧ n ≠ "colgroup" ∧ n ≠ "col" ∧
        n ∉ "form" :: "pre" :: (formattingNames ++ sealingTags) := by decide
    obtain ⟨hcaption, hcolgroup, hcol, hother⟩ := hrules t.name hgroup
    rw [if_neg hcaption, if_neg hcolgroup, if_neg hcol, if_pos (List.contains_iff_mem.2 hgroup),
      opened_eq hother, modeWithin_rowGroup (List.contains_iff_mem.2 hgroup)]

/-- A row is opened in a group of rows. -/
theorem startStep_rows (h : c.IsOrderly) (hground : ground c.names = .rows)
    (htag : t.name = "tr") : c.modeStep (.startTag t) = .done (c.opened t) := by
  have hmode := h.mode_mem
  rw [hground] at hmode
  have hclear : c.clearTo rowGroups = c := h.clearTo_holders hground (by decide)
  unfold modeStep
  rw [List.mem_singleton.1 hmode]
  dsimp only
  rw [rowGroupToken, if_pos htag, hclear, opened_eq (by rw [htag]; decide), htag]
  rfl

/-- A cell is opened in a row. -/
theorem startStep_row (h : c.IsOrderly) (hground : ground c.names = .row)
    (htag : cells.contains t.name = true) : c.modeStep (.startTag t) = .done (c.opened t) := by
  have hmode := h.mode_mem
  rw [hground] at hmode
  have hclear : c.clearTo ["tr"] = c := h.clearTo_holders hground (by decide)
  have hsealing := (by decide : ∀ n ∈ cells, n ∈ sealingTags) t.name (List.contains_iff_mem.1 htag)
  unfold modeStep
  rw [List.mem_singleton.1 hmode]
  dsimp only
  rw [rowToken, if_pos htag, hclear, opened_eq_addMarker hsealing, modeWithin_cell htag]

/-- In a selection list the start tag of an option or of a group opens it. -/
theorem startStep_options (h : c.IsOrderly) (hground : ground c.names = .options)
    (hopens : opensInPlace c.names t.name = true) :
    c.modeStep (.startTag t) = .done (c.opened t) := by
  rw [opensInPlace, hground, Bool.or_eq_true, Bool.and_eq_true, Bool.and_eq_true,
    decide_eq_true_eq, decide_eq_true_eq, decide_eq_true_eq, bne_iff_ne] at hopens
  have hcurrent : ∀ name, c.names.head? ≠ some name → c.currentIs (·.isHtml name) = false := by
    intro name hother
    rw [h.currentIs_isHtml, decide_eq_false hother]
  -- Neither an option nor a group is open that the new element would end.
  have hstart : c.selectStart t = .done (c.openTag t) := by
    rcases hopens with ⟨hname, hother⟩ | ⟨hname, hselect⟩
    · rw [selectStart]
      dsimp only
      rw [hname, if_pos rfl, hcurrent "option" hother, if_neg Bool.false_ne_true]
    · rw [selectStart]
      dsimp only
      rw [hname, if_neg (by decide), if_pos rfl, hcurrent "option" (by rw [hselect]; decide),
        if_neg Bool.false_ne_true, hcurrent "optgroup" (by rw [hselect]; decide),
        if_neg Bool.false_ne_true]
  have hname : t.name ∈ ["option", "optgroup"] := by
    rcases hopens with ⟨hname, -⟩ | ⟨hname, -⟩ <;> simp [hname]
  have hopened := h.opened_eq_openTag ["option", "optgroup"] (List.contains_iff_mem.2 hname)
    (by decide)
  have hmode := h.mode_mem
  rw [hground] at hmode
  rw [hopened, ← hstart]
  unfold modeStep
  rcases List.mem_cons.1 hmode with hmode | hmode
  · rw [hmode]
    rfl
  · have hbreaks := (by decide : ∀ n ∈ ["option", "optgroup"], selectBreakers.contains n = false)
      t.name hname
    rw [List.mem_singleton.1 hmode]
    dsimp only
    rw [selectInTableToken, hbreaks, if_neg Bool.false_ne_true]
    rfl

/-- The start tag of an element that opens in place opens it and finishes nothing. -/
theorem startStep (h : c.IsOrderly) (hopens : opensInPlace c.names t.name = true) :
    c.modeStep (.startTag t) = .done (c.opened t) := by
  cases hground : ground c.names with
  | flow =>
    have hpart : t.name ∉ partTags := by
      rw [opensInPlace, hground, Bool.and_eq_true, Bool.not_eq_true'] at hopens
      have hout := contains_eq_false_iff.1 hopens.1
      exact contains_eq_false_iff.1 (contains_eq_false_of_subset hout partTags (by decide))
    rw [h.modeStep_startTag_of_flow hground hpart, h.bodyStart_eq hground hopens]
  | table =>
    rw [opensInPlace, hground, List.contains_iff_mem] at hopens
    exact h.startStep_table hground hopens
  | columns =>
    rw [opensInPlace, hground] at hopens
    cases hopens
  | rows =>
    rw [opensInPlace, hground, decide_eq_true_eq] at hopens
    exact h.startStep_rows hground hopens
  | row =>
    rw [opensInPlace, hground] at hopens
    exact h.startStep_row hground hopens
  | options => exact h.startStep_options hground hopens

/-! ## Elements without content -/

/-- An element that never has content becomes a child of the innermost element at once. -/
theorem insertEmpty_eq (h : c.IsOrderly) (t : Tag) {k : Frame} {below : Stack}
    (hstack : c.stack = k :: below) :
    c.insertEmpty t =
      { c with stack := k.addChild (c.openedFrame t).toTailed :: below, fresh := c.fresh + 1 } := by
  have hplain : Stack.IsPlain (c.openedFrame t :: k :: below) :=
    .cons (c.isPlain_openedFrame t) (hstack ▸ h.plain)
  rw [insertEmpty, h.openTag_eq, hstack, closeCurrent_eq hplain rfl]

/-- In flow content the start tag of an element that never has content puts it in its place. -/
theorem bodyStart_empty (h : c.IsOrderly) (hempty : emptyTags.contains t.name = true)
    (hrule : (decide (t.name = "hr") && endsParagraph c.names) = false) :
    c.bodyStart t = c.insertEmpty t := by
  have hmem := List.contains_iff_mem.1 hempty
  have hignored := contains_eq_false_of_mem hmem ignoredTags (by decide)
  unfold bodyStart
  dsimp only
  rw [hignored, if_neg (by decide)]
  by_cases hbeside : besideText.contains t.name = true
  · rw [if_pos hbeside]
  rw [if_neg hbeside]
  by_cases hwithin : withinText.contains t.name = true
  · rw [if_pos hwithin, h.reconstruct_eq]
  rw [if_neg hwithin]
  have hcases : ∀ n ∈ emptyTags, besideText.contains n = true ∨ withinText.contains n = true ∨
      n = "hr" := by decide
  have hhr : t.name = "hr" :=
    ((hcases t.name hmem).resolve_left hbeside).resolve_left hwithin
  rw [if_neg (by rw [hhr]; decide), if_pos hhr, h.closeParagraph_eq]
  rwa [decide_eq_true hhr, Bool.true_and] at hrule

/-- The start tag of an element that never has content puts it in its place. -/
theorem startStep_empty (h : c.IsOrderly) {o : Options}
    (hstands : standsInPlace o c.names t.name = true) :
    c.modeStep (.startTag t) = .done (c.insertEmpty t) := by
  unfold standsInPlace at hstands
  cases hground : ground c.names with
  | flow =>
    rw [hground, Bool.and_eq_true, Bool.and_eq_true, Bool.not_eq_true'] at hstands
    obtain ⟨⟨hempty, hrule⟩, -⟩ := hstands
    have hpart : t.name ∉ partTags :=
      (by decide : ∀ n ∈ emptyTags, n ∉ partTags) t.name (List.contains_iff_mem.1 hempty)
    rw [h.modeStep_startTag_of_flow hground hpart, h.bodyStart_empty hempty hrule]
  | columns =>
    rw [hground, decide_eq_true_eq] at hstands
    have hmode := h.mode_mem
    rw [hground] at hmode
    unfold modeStep
    rw [List.mem_singleton.1 hmode]
    dsimp only
    rw [columnToken, hstands, if_neg (by decide), if_pos rfl]
  | table | rows | row | options =>
    rw [hground] at hstands
    cases hstands

end IsOrderly

end MarkupOutline.Html.Construction
