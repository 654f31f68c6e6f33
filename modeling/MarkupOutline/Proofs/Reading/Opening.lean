import MarkupOutline.Proofs.Reading.Orderly

/-!
# Start tags in place

The start tag of an element that opens in place puts the element on the stack and does nothing else
(`IsOrderly.startStep`): the rules of the mode find no paragraph, heading, item, link or option that
it would end. The state behind it is orderly again (`IsOrderly.opened`), with the mode inside of the
element.
-/

namespace MarkupOutline.Html.Construction

variable {c : Construction} {t : Tag}

/-! ## Opening elements -/

/-- The state behind the start tag of an element with content that opens in place. -/
def opened (t : Tag) (c : Construction) : Construction :=
  let inside := { c.openTag t with mode := modeWithin (t.name :: c.names) }
  if formattingNames.contains t.name then inside.addFormatting t
  else if sealingTags.contains t.name then inside.addMarker
  else if t.name = "form" then { inside with form := some c.fresh }
  else if t.name = "pre" then { inside with dropNewline := true }
  else inside

/-- The frame of a start tag when it is opened. -/
def openedFrame (t : Tag) (c : Construction) : Frame :=
  { id := c.fresh, name := t.name, attributes := t.attributes }

/-- The frame of a start tag is one of an ordinary element. -/
theorem isPlain_openedFrame (t : Tag) (c : Construction) : (c.openedFrame t).IsPlain :=
  ⟨rfl, rfl, rfl⟩

/-- A form is not opened inside of another one. -/
theorem not_mem_of_opensInPlace_form {names : List String}
    (h : opensInPlace names "form" = true) : "form" ∉ names := by
  have hflow : ground names = .flow := ground_eq_homeOf h (by decide)
  rw [opensInPlace, hflow, Bool.and_eq_true] at h
  have hnothing : (!endsParagraph names && !names.contains "form") = true := h.2
  rw [Bool.and_eq_true, Bool.not_eq_true', Bool.not_eq_true', List.contains_eq_mem,
    decide_eq_false_iff_not] at hnothing
  exact hnothing.2

namespace IsOrderly

/-- The start tag of an element puts it on the stack. -/
theorem openTag_eq (h : c.IsOrderly) (t : Tag) :
    c.openTag t = { c with stack := c.openedFrame t :: c.stack, fresh := c.fresh + 1 } := by
  rw [openTag, openElement, h.isDisplaced_eq]
  rfl

/-- The state with an element opened is orderly, whatever becomes of the formatting in effect and of
the form that is noted. -/
theorem of_openTag (h : c.IsOrderly) (hopens : opensInPlace c.names t.name = true)
    {formatting : List Formatting} {form : Option Nat}
    (hformatting : InEffect formatting (c.openedFrame t :: c.stack))
    (hform : form = if t.name = "form" then some c.fresh else c.form) (drop : Bool) :
    IsOrderly
      { c.openTag t with
        formatting, form, dropNewline := drop, mode := modeWithin (t.name :: c.names) } where
  mode_eq := by
    rw [h.openTag_eq]
    rfl
  nested := by
    rw [h.openTag_eq]
    exact .opened h.nested hopens
  model_eq := h.model_eq
  fostering_eq := h.fostering_eq
  plain := by
    rw [h.openTag_eq]
    exact .cons (c.isPlain_openedFrame t) h.plain
  ids := by
    -- The new element has the next number, which is larger than those of all others.
    rw [h.openTag_eq, List.map_cons, List.pairwise_cons]
    refine ⟨fun id hid => ?_, h.ids⟩
    obtain ⟨f, hf, rfl⟩ := List.mem_map.1 hid
    exact h.fresh f hf
  fresh := by
    rw [h.openTag_eq]
    intro f hf
    rcases List.mem_cons.1 hf with rfl | hf
    · exact Nat.lt_succ_self c.fresh
    · exact Nat.lt_succ_of_lt (h.fresh f hf)
  formatting := by
    rw [h.openTag_eq]
    exact hformatting
  form := by
    rw [h.openTag_eq]
    intro f hf hname
    rcases List.mem_cons.1 hf with rfl | hf
    · exact hform.trans (if_pos hname)
    · -- A form is open already, so the new element is none.
      have hother : t.name ≠ "form" := by
        intro htag
        rw [htag] at hopens
        exact not_mem_of_opensInPlace_form hopens (List.mem_map.2 ⟨f, hf, hname⟩)
      exact (hform.trans (if_neg hother)).trans (h.form f hf hname)
  form_open := by
    rw [h.openTag_eq]
    intro id hid
    change form = some id at hid
    rw [hform] at hid
    split at hid
    · next htag =>
      exact ⟨c.openedFrame t, by simp, htag, Option.some.inj hid⟩
    · obtain ⟨f, hf, hfound⟩ := h.form_open id hid
      exact ⟨f, by simp [hf], hfound⟩

/-- The formatting in effect stays that of open elements when a formatting element is entered. -/
theorem addFormatting_openTag (h : c.IsOrderly) (htag : t.name ∈ formattingNames) (mode : Mode) :
    ∃ formatting, addFormatting t { c.openTag t with mode } =
        { c.openTag t with formatting, mode } ∧
      InEffect formatting (c.openedFrame t :: c.stack) := by
  rw [addFormatting, h.openTag_eq]
  dsimp only [current?, List.head?_cons]
  split
  · exact ⟨_, rfl, .entry _ htag h.formatting⟩
  · next excess _ =>
    -- Entries may be dropped when there are three like the new one, but no marker is like it.
    refine ⟨_, rfl, .entry _ htag (h.formatting.filter ?_)⟩
    rw [Bool.not_eq_true', Bool.eq_false_iff, ne_eq, List.contains_iff_mem]
    intro hmem
    have hlike := (List.mem_filter.1 ((List.drop_sublist 2 _).subset hmem)).2
    cases hlike

/-- The state behind the start tag of an element that opens in place is orderly. -/
theorem opened (h : c.IsOrderly) (hopens : opensInPlace c.names t.name = true) :
    (c.opened t).IsOrderly := by
  unfold Construction.opened
  dsimp only
  split
  · next htag =>
    have hmem : t.name ∈ formattingNames := by simpa using htag
    obtain ⟨formatting, heq, hformatting⟩ := h.addFormatting_openTag hmem
      (modeWithin (t.name :: c.names))
    have hform : t.name ≠ "form" := by
      intro heq
      rw [heq] at hmem
      exact absurd hmem (by decide)
    rw [heq]
    exact h.of_openTag hopens hformatting (if_neg hform).symm _
  · next hformatting =>
    split
    · next hsealing =>
      have hmem := List.contains_iff_mem.1 hsealing
      have hform : t.name ≠ "form" := by
        intro heq
        rw [heq] at hmem
        exact absurd hmem (by decide)
      exact h.of_openTag hopens (.marker hmem h.formatting) (if_neg hform).symm _
    · next hsealing =>
      -- No other element leaves an entry.
      have hskip : InEffect c.formatting (c.openedFrame t :: c.stack) :=
        .skip (fun hmem => hsealing (List.contains_iff_mem.2 hmem)) h.formatting
      split
      · next hform => exact h.of_openTag hopens hskip (if_pos hform).symm _
      · next hform => split <;> exact h.of_openTag hopens hskip (if_neg hform).symm _

/-- What is open behind the start tag of an element that opens in place. -/
theorem stack_opened (h : c.IsOrderly) (t : Tag) :
    (c.opened t).stack = c.openedFrame t :: c.stack := by
  unfold Construction.opened
  dsimp only
  split
  · next htag =>
    obtain ⟨formatting, heq, -⟩ := h.addFormatting_openTag (by simpa using htag)
      (modeWithin (t.name :: c.names))
    rw [heq, h.openTag_eq]
  · rw [h.openTag_eq]
    repeat' split
    all_goals rfl

/-- A line feed is left out behind the start tag of preformatted text only. -/
theorem dropNewline_opened (h : c.IsOrderly) (hdrop : c.dropNewline = false) (t : Tag) :
    (c.opened t).dropNewline = decide (t.name = "pre") := by
  have hother : ∀ names : List String, "pre" ∉ names → names.contains t.name = true →
      c.dropNewline = decide (t.name = "pre") := by
    intro names hnames htag
    rw [hdrop, decide_eq_false]
    intro hpre
    exact hnames (hpre ▸ List.contains_iff_mem.1 htag)
  unfold Construction.opened
  dsimp only
  split
  · next htag =>
    obtain ⟨formatting, heq, -⟩ := h.addFormatting_openTag (List.contains_iff_mem.1 htag)
      (modeWithin (t.name :: c.names))
    rw [heq, h.openTag_eq]
    exact hother formattingNames (by decide) htag
  · rw [h.openTag_eq]
    split
    · next htag => exact hother sealingTags (by decide) htag
    · split
      · next hform => exact hother ["form"] (by decide) (by simp [hform])
      · split
        · next hpre => exact (decide_eq_true hpre).symm
        · next hpre => exact hdrop.trans (decide_eq_false hpre).symm

/-! ## Kinds of elements -/

/-- An element without a mode of its own does not change the mode. -/
theorem modeWithin_cons_eq (h : c.IsOrderly) (htag : t.name ∉ modeTags) :
    modeWithin (t.name :: c.names) = c.mode := by
  rw [modeWithin_cons htag, h.mode_eq]

/-- Most elements are opened and change the mode at most. -/
theorem opened_eq (htag : t.name ∉ "form" :: "pre" :: (formattingNames ++ sealingTags)) :
    c.opened t = { c.openTag t with mode := modeWithin (t.name :: c.names) } := by
  simp only [List.mem_cons, List.mem_append, not_or] at htag
  obtain ⟨hform, hpre, hformatting, hsealing⟩ := htag
  unfold Construction.opened
  dsimp only
  rw [if_neg (mt List.contains_iff_mem.1 hformatting), if_neg (mt List.contains_iff_mem.1 hsealing),
    if_neg hform, if_neg hpre]

/-- An element with no rules of its own is simply opened. -/
theorem opened_eq_openTag (h : c.IsOrderly) (names : List String)
    (htag : names.contains t.name = true)
    (hnames : ∀ name ∈ names,
      name ∉ "form" :: "pre" :: (formattingNames ++ sealingTags) ++ modeTags) :
    c.opened t = c.openTag t := by
  have hother := hnames t.name (List.contains_iff_mem.1 htag)
  rw [List.mem_append, not_or] at hother
  rw [opened_eq hother.1, h.modeWithin_cons_eq hother.2]
  rfl

/-- A formatting element is entered when it is opened. -/
theorem opened_eq_addFormatting (h : c.IsOrderly) (htag : t.name ∈ formattingNames) :
    c.opened t = (c.openTag t).addFormatting t := by
  have hmode : t.name ∉ modeTags :=
    (by decide : ∀ name ∈ formattingNames, name ∉ modeTags) t.name htag
  unfold Construction.opened
  dsimp only
  rw [if_pos (List.contains_iff_mem.2 htag), h.modeWithin_cons_eq hmode]
  rfl

/-- A marker is entered when an element is opened that formatting does not reach into. -/
theorem opened_eq_addMarker (htag : t.name ∈ sealingTags) :
    c.opened t = addMarker { c.openTag t with mode := modeWithin (t.name :: c.names) } := by
  have hformatting : t.name ∉ formattingNames := fun hmem => not_mem_sealingTags hmem htag
  unfold Construction.opened
  dsimp only
  rw [if_neg (mt List.contains_iff_mem.1 hformatting), if_pos (List.contains_iff_mem.2 htag)]

/-- When a `pre` element is opened, a line feed behind its start tag is to be left out. -/
theorem opened_eq_of_pre (h : c.IsOrderly) (hpre : t.name = "pre") :
    c.opened t = { c.openTag t with dropNewline := true } := by
  have hmode : t.name ∉ modeTags := by rw [hpre]; decide
  unfold Construction.opened
  dsimp only
  rw [h.modeWithin_cons_eq hmode, hpre]
  rfl

/-- A form is noted when it is opened. -/
theorem opened_eq_of_form (h : c.IsOrderly) (hform : t.name = "form") :
    c.opened t = { c.openTag t with form := some c.fresh } := by
  have hmode : t.name ∉ modeTags := by rw [hform]; decide
  unfold Construction.opened
  dsimp only
  rw [h.modeWithin_cons_eq hmode, hform]
  rfl

end IsOrderly

end MarkupOutline.Html.Construction
