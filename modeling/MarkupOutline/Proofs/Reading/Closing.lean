import MarkupOutline.Proofs.Reading.Orderly

/-!
# Finishing elements in place

When the innermost element is finished, its tree becomes the last child of the element around it,
its entry or its marker, if it has one, goes with it, and the mode is again the one around it. The
state behind it is orderly (`IsOrderly.closed`). Whatever the rules search for in order to finish an
element, they find the innermost one first.
-/

namespace MarkupOutline.Html.Construction

variable {c : Construction} {f g : Frame} {below : Stack}

/-- The state behind the end tag of the innermost element `f`, with `g` around it. -/
def closed (f g : Frame) (below : Stack) (c : Construction) : Construction :=
  { c with
    stack := g.addChild f.toTailed :: below
    formatting :=
      if sealingTags.contains f.name then c.formatting.drop 1
      else c.formatting.filter fun e => !e.hasId f.id
    form := if c.form = some f.id then none else c.form
    mode := modeWithin (g.name :: below.names) }

namespace IsOrderly

/-! ## The innermost element -/

/-- The innermost element has been opened in place. -/
theorem nested_outer (h : c.IsOrderly) (hstack : c.stack = f :: g :: below) :
    NestInPlace (g.name :: below.names) ∧ opensInPlace (g.name :: below.names) f.name = true := by
  have hnested := h.nested
  rw [names_eq hstack] at hnested
  exact hnested.outer (List.cons_ne_nil _ _)

/-- Elements further out than the innermost one have other numbers. -/
theorem id_ne (h : c.IsOrderly) (hstack : c.stack = f :: below) {k : Frame} (hk : k ∈ below) :
    k.id ≠ f.id := by
  have hids := h.ids
  rw [hstack, List.map_cons, List.pairwise_cons] at hids
  exact Nat.ne_of_lt (hids.1 k.id (List.mem_map_of_mem hk))

/-- The entries of elements further out are not that of the innermost one. -/
theorem hasId_eq_false (h : c.IsOrderly) (hstack : c.stack = f :: below) {es : List Formatting}
    (hes : InEffect es below) {e : Formatting} (he : e ∈ es) : e.hasId f.id = false := by
  cases e with
  | marker => rfl
  | element id name attributes =>
    obtain ⟨k, hk, hid, -⟩ := hes.exists_mem he
    exact decide_eq_false fun heq => h.id_ne hstack hk (hid.trans heq)

/-- Taking off the entry of the innermost element leaves those of elements further out. -/
theorem filter_eq_self (h : c.IsOrderly) (hstack : c.stack = f :: below) {es : List Formatting}
    (hes : InEffect es below) : (es.filter fun e => !e.hasId f.id) = es := by
  rw [List.filter_eq_self]
  intro e he
  rw [h.hasId_eq_false hstack hes he]
  rfl

/-- The innermost element has no entry, the first one, or a marker in place of one. -/
theorem formatting_cases (h : c.IsOrderly) (hstack : c.stack = f :: below)
    (hother : f.name ∉ sealingTags) :
    InEffect c.formatting below ∨
      ∃ attributes more, c.formatting = .element f.id f.name attributes :: more ∧
        f.name ∈ formattingNames ∧ InEffect more below :=
  InEffect.cases_of_not_mem (hstack ▸ h.formatting) hother

/-- Only the entry of a formatting element goes. -/
theorem filter_formatting_eq_self (h : c.IsOrderly) (hstack : c.stack = f :: below)
    (hother : f.name ∉ sealingTags) (hname : f.name ∉ formattingNames) :
    (c.formatting.filter fun e => !e.hasId f.id) = c.formatting := by
  rcases h.formatting_cases hstack hother with hout | ⟨attributes, more, -, hmem, -⟩
  · exact h.filter_eq_self hstack hout
  · exact absurd hmem hname

/-- Only a form is the form that is noted. -/
theorem form_ne (h : c.IsOrderly) (hstack : c.stack = f :: below) (hname : f.name ≠ "form") :
    c.form ≠ some f.id := by
  intro hform
  obtain ⟨k, hk, hkname, hid⟩ := h.form_open f.id hform
  rw [hstack] at hk
  rcases List.mem_cons.1 hk with rfl | hk
  · exact hname hkname
  · exact h.id_ne hstack hk hid

/-- Behind the end tag of the innermost element the formatting in effect is that of the elements
further out. -/
theorem formatting_closed (h : c.IsOrderly) (hstack : c.stack = f :: g :: below) :
    InEffect (c.closed f g below).formatting (g :: below) := by
  rw [Construction.closed]
  dsimp only
  by_cases hsealing : f.name ∈ sealingTags
  · obtain ⟨more, hlist, hout⟩ := InEffect.eq_marker_cons (hstack ▸ h.formatting) hsealing
    rwa [if_pos (List.contains_iff_mem.2 hsealing), hlist, List.drop_one, List.tail_cons]
  · rw [if_neg (mt List.contains_iff_mem.1 hsealing)]
    rcases h.formatting_cases hstack hsealing with hout | ⟨attributes, more, hlist, -, hout⟩
    · rwa [h.filter_eq_self hstack hout]
    · rwa [hlist, List.filter_cons_of_neg (by simp [Formatting.hasId]),
        h.filter_eq_self hstack hout]

/-- The state behind the end tag of the innermost element is orderly. -/
theorem closed (h : c.IsOrderly) (hstack : c.stack = f :: g :: below) :
    (c.closed f g below).IsOrderly := by
  -- First the innermost element goes, then its tree becomes a child of the next one.
  have hout : ∀ k ∈ g :: below, k ∈ c.stack := fun k hk => hstack ▸ List.mem_cons_of_mem f hk
  have hinner : IsOrderly { c.closed f g below with stack := g :: below } :=
    { mode_eq := rfl
      nested := (h.nested_outer hstack).1
      model_eq := h.model_eq
      fostering_eq := h.fostering_eq
      plain := fun k hk => h.plain k (hout k hk)
      ids := by
        have hids := h.ids
        rw [hstack, List.map_cons, List.pairwise_cons] at hids
        exact hids.2
      fresh := fun k hk => h.fresh k (hout k hk)
      formatting := h.formatting_closed hstack
      form := by
        intro k hk hname
        have hform := h.form k (hout k hk) hname
        have hother : c.form ≠ some f.id := by
          rw [hform]
          exact fun heq => h.id_ne hstack hk (Option.some.inj heq)
        exact (if_neg hother).trans hform
      form_open := by
        intro id hid
        change (if c.form = some f.id then none else c.form) = some id at hid
        split at hid
        · cases hid
        · next hother =>
          obtain ⟨k, hk, hname, rfl⟩ := h.form_open id hid
          rw [hstack] at hk
          rcases List.mem_cons.1 hk with rfl | hk
          · exact absurd hid hother
          · exact ⟨k, hk, hname, rfl⟩ }
  exact hinner.setTop rfl (Frame.key_addChild f.toTailed g)
    ((h.plain g (hout g (by simp))).addChild f.toTailed) (Nat.le_refl _)

/-! ## What goes with the innermost element -/

/-- Behind an element that formatting reaches into, without an entry and without a form. -/
theorem closed_eq (h : c.IsOrderly) (hstack : c.stack = f :: g :: below)
    (hname : f.name ∉ "form" :: (formattingNames ++ sealingTags)) :
    c.closed f g below =
      { c with
        stack := g.addChild f.toTailed :: below
        mode := modeWithin (g.name :: below.names) } := by
  rw [List.mem_cons, List.mem_append, not_or, not_or] at hname
  obtain ⟨hform, hformatting, hsealing⟩ := hname
  rw [Construction.closed, if_neg (mt List.contains_iff_mem.1 hsealing),
    h.filter_formatting_eq_self hstack hsealing hformatting, if_neg (h.form_ne hstack hform)]

/-- Behind an element that formatting does not reach into, its marker goes. -/
theorem closed_of_sealing (h : c.IsOrderly) (hstack : c.stack = f :: g :: below)
    (hsealing : f.name ∈ sealingTags) :
    c.closed f g below =
      { clearToMarker { c with stack := g.addChild f.toTailed :: below } with
        mode := modeWithin (g.name :: below.names) } := by
  have hform : f.name ≠ "form" := by
    intro hform
    rw [hform] at hsealing
    exact absurd hsealing (by decide)
  obtain ⟨more, hlist, -⟩ := InEffect.eq_marker_cons (hstack ▸ h.formatting) hsealing
  rw [Construction.closed, if_pos (List.contains_iff_mem.2 hsealing),
    if_neg (h.form_ne hstack hform), clearToMarker]
  dsimp only
  rw [hlist, List.dropWhile_cons_of_neg (by simp [Formatting.isMarker])]

/-- The mode stays the same behind an element without a mode of its own. -/
theorem modeWithin_eq_mode (h : c.IsOrderly) (hstack : c.stack = f :: g :: below)
    (hname : f.name ∉ modeTags) : modeWithin (g.name :: below.names) = c.mode := by
  rw [h.mode_eq, names_eq hstack, modeWithin_cons hname]
  rfl

/-- Most elements leave nothing behind. -/
theorem closed_of_mem (h : c.IsOrderly) (hstack : c.stack = f :: g :: below) (names : List String)
    (hname : names.contains f.name = true)
    (hnames : ∀ name ∈ names, name ∉ "form" :: (formattingNames ++ sealingTags) ++ modeTags) :
    c.closed f g below = { c with stack := g.addChild f.toTailed :: below } := by
  have hother := hnames f.name (List.contains_iff_mem.1 hname)
  rw [List.mem_append, not_or] at hother
  rw [h.closed_eq hstack hother.1, h.modeWithin_eq_mode hstack hother.2]

/-- The mode around an element that is where it belongs. -/
theorem modeWithin_mem_homeOf (h : c.IsOrderly) (hstack : c.stack = f :: g :: below)
    (hname : f.name ≠ "option" ∧ f.name ≠ "optgroup") :
    modeWithin (g.name :: below.names) ∈ modesIn (homeOf f.name) := by
  obtain ⟨hnested, hopens⟩ := h.nested_outer hstack
  rw [← ground_eq_homeOf hopens hname]
  exact hnested.modeWithin_mem

/-- The mode is looked for anew in the names of the open elements. -/
theorem resetMode_eq {s : Stack} (hs : s.IsPlain) :
    resetMode { c with stack := s } = { c with stack := s, mode := modeWithin s.names } := by
  rw [resetMode]
  dsimp only
  rw [hs.openFrames_eq, fittingMode_eq hs]

/-! ## Finishing the innermost element -/

/-- The innermost element is found within any boundary. -/
theorem hasWithin_top (h : c.IsOrderly) (hstack : c.stack = f :: below) {wanted : List String}
    (hwanted : wanted.contains f.name = true) (boundary : Frame → Bool) :
    c.hasWithin boundary wanted = true := by
  have hplain : Stack.IsPlain (f :: below) := hstack ▸ h.plain
  have hfound : f.isHtmlIn wanted = true := by rwa [(hplain f (by simp)).isHtmlIn_eq]
  rw [hasWithin, Stack.hasWithin, hstack, hplain.findWithin_top boundary hfound]
  rfl

/-- The innermost element is found by its number. -/
theorem hasWithin_id (h : c.IsOrderly) (hstack : c.stack = f :: below) :
    c.stack.hasWithin scopeBoundary (fun k => k.id = f.id) = true := by
  have hplain : Stack.IsPlain (f :: below) := hstack ▸ h.plain
  rw [hstack, Stack.hasWithin, hplain.findWithin_top _ (by simp)]
  rfl

/-- Whatever finishes the innermost element hands its tree to the element around it. -/
theorem onStack_popThrough (h : c.IsOrderly) (hstack : c.stack = f :: g :: below)
    {p : Frame → Bool} (hp : p f = true) :
    c.onStack (Stack.popThrough p) = { c with stack := g.addChild f.toTailed :: below } := by
  have hplain : Stack.IsPlain (f :: g :: below) := hstack ▸ h.plain
  rw [onStack, hstack, hplain.popThrough_eq hp]

/-- A search for the innermost element finishes it. -/
theorem closeThrough_eq (h : c.IsOrderly) (hstack : c.stack = f :: g :: below)
    {wanted : List String} (hwanted : wanted.contains f.name = true) :
    c.closeThrough wanted = { c with stack := g.addChild f.toTailed :: below } := by
  have hf := h.plain f (by simp [hstack])
  exact h.onStack_popThrough hstack (by rwa [hf.isHtmlIn_eq])

/-- The stack behind the innermost element is one of ordinary elements. -/
theorem plain_closed (h : c.IsOrderly) (hstack : c.stack = f :: g :: below) :
    Stack.IsPlain (g.addChild f.toTailed :: below) :=
  Stack.IsPlain.addChild (hstack ▸ h.plain) f.toTailed

/-- A search within a boundary for the innermost element finishes it. -/
theorem endWithin_eq (h : c.IsOrderly) (hstack : c.stack = f :: g :: below) {wanted : List String}
    (hwanted : wanted.contains f.name = true) (boundary : Frame → Bool) :
    c.endWithin boundary wanted = { c with stack := g.addChild f.toTailed :: below } := by
  rw [endWithin, h.hasWithin_top hstack hwanted boundary, if_pos rfl,
    h.closeThrough_eq hstack hwanted]

/-- An end tag without rules of its own finishes the innermost element if it has that name. -/
theorem closeNamed_eq (h : c.IsOrderly) (hstack : c.stack = f :: g :: below) :
    c.closeNamed f.name = { c with stack := g.addChild f.toTailed :: below } := by
  have hplain : Stack.IsPlain (f :: g :: below) := hstack ▸ h.plain
  have hfind : c.stack.findWithin Frame.isSpecial (fun k => k.isHtml f.name) = some f := by
    rw [hstack]
    exact hplain.findWithin_top _ (by simp [(hplain f (by simp)).isHtml_eq])
  rw [closeNamed, hfind]
  exact h.onStack_popThrough hstack (by simp)

/-- The end of a form finishes it. -/
theorem endForm_eq (h : c.IsOrderly) (hstack : c.stack = f :: g :: below)
    (hname : f.name = "form") :
    c.endForm = { c with stack := g.addChild f.toTailed :: below, form := none } := by
  have hform := h.form f (by simp [hstack]) hname
  have hplain : Stack.IsPlain (f :: g :: below) := hstack ▸ h.plain
  have hpop : c.stack.popWhile (·.isHtmlIn impliedEnds) = c.stack := by
    rw [hstack, hplain.popWhile_eq]
    rw [(hplain f (by simp)).isHtmlIn_eq, hname]
    decide
  have hremove : c.stack.remove f.id = g.addChild f.toTailed :: below := by
    rw [hstack, hplain.remove_eq fun k hk => h.id_ne hstack hk]
  rw [endForm, hform]
  dsimp only
  rw [h.hasWithin_id hstack, if_pos rfl, closeImplied, onStack, onStack]
  dsimp only
  rw [hpop, hremove]

/-- The end of the latest formatting element finishes it. -/
theorem endFormatting_eq (h : c.IsOrderly) (hstack : c.stack = f :: g :: below)
    (hother : f.name ∉ sealingTags) :
    c.endFormatting f.name =
      { c with
        stack := g.addChild f.toTailed :: below
        formatting := c.formatting.filter fun e => !e.hasId f.id } := by
  have hf := h.plain f (by simp [hstack])
  have hcurrent : c.current? = some f := by rw [current?, hstack, List.head?_cons]
  rw [endFormatting, hcurrent]
  dsimp only
  rw [hf.isHtml_eq, decide_eq_true rfl, Bool.true_and]
  rcases h.formatting_cases hstack hother with hout | ⟨attributes, more, hlist, -⟩
  · -- The element is no longer entered.
    have hany : c.formatting.any (·.hasId f.id) = false := by
      rw [List.any_eq_false]
      intro e he
      rw [h.hasId_eq_false hstack hout he]
      decide
    rw [hany, Bool.not_false, if_pos rfl, closeCurrent_eq h.plain hstack,
      h.filter_eq_self hstack hout]
  · -- Its entry is the latest one with that name, and there is nothing open inside of it.
    have hfind : c.recentFormatting.find? (·.hasName f.name) =
        some (.element f.id f.name attributes) := by
      rw [recentFormatting, hlist, List.takeWhile_cons_of_pos rfl]
      exact List.find?_cons_of_pos (by simp [Formatting.hasName])
    have hopen : c.stack.isOpen f.id = true := by
      rw [Stack.isOpen, List.any_eq_true]
      exact ⟨f, by simp [hstack], by simp [hf.isOpen_eq]⟩
    have hinside : c.stack.takeWhile (fun k => k.id ≠ f.id) = [] := by
      rw [hstack, List.takeWhile_cons_of_neg (by simp)]
    rw [if_neg (by simp [hlist, Formatting.hasId]), endFormattingTimes, hfind]
    dsimp only
    rw [hopen, h.hasWithin_id hstack, hinside, if_neg (by decide), if_neg (by decide), List.filter_nil,
      List.getLast?_nil]
    dsimp only
    rw [h.onStack_popThrough hstack (by simp), dropFormatting]

end IsOrderly

end MarkupOutline.Html.Construction
