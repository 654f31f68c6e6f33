import MarkupOutline.Html.Construction.Dispatch
import MarkupOutline.Proofs.Reading.Formatting
import MarkupOutline.Proofs.Reading.Grounds

/-!
# Orderly states

`Construction.IsOrderly` describes the state of construction while trees are rebuilt in place:
ordinary elements are open, opened in place one inside of the other, the mode is the one inside of
their names, the formatting in effect is theirs, and the form that is open is the one that is noted.
In such a state searches are searches through names, there is nothing to open again, and new content
goes where it stands.
-/

namespace MarkupOutline.Html

/-- What tells an open element from others. -/
def Frame.key (f : Frame) : Nat × String := (f.id, f.name)

/-- An element stays the same with another child. -/
theorem Frame.key_addChild (child : Tailed) (f : Frame) : (f.addChild child).key = f.key := rfl

/-- An element stays the same with more text. -/
theorem Frame.key_addText (s : String) (f : Frame) : (f.addText s).key = f.key := by
  unfold Frame.addText
  split <;> rfl

namespace Construction

/-- The names of the open elements, innermost first. -/
def names (c : Construction) : List String := c.stack.names

/-- Ordinary elements are open, and trees are rebuilt in place. -/
structure IsOrderly (c : Construction) : Prop where
  mode_eq : c.mode = modeWithin c.names
  nested : NestInPlace c.names
  model_eq : c.model = .data
  fostering_eq : c.fostering = false
  plain : c.stack.IsPlain
  /-- Later elements have larger numbers. -/
  ids : (c.stack.map (·.id)).Pairwise (· > ·)
  fresh : ∀ f ∈ c.stack, f.id < c.fresh
  formatting : InEffect c.formatting c.stack
  /-- A form that is open is the one that is noted, -/
  form : ∀ f ∈ c.stack, f.name = "form" → c.form = some f.id
  /-- and the one that is noted is open. -/
  form_open : ∀ id, c.form = some id → ∃ f ∈ c.stack, f.name = "form" ∧ f.id = id

variable {c : Construction}

/-- The innermost of ordinary elements finished. -/
theorem closeCurrent_eq (hplain : c.stack.IsPlain) {f g : Frame} {below : Stack}
    (hstack : c.stack = f :: g :: below) :
    c.closeCurrent = { c with stack := g.addChild f.toTailed :: below } := by
  rw [hstack] at hplain
  rw [closeCurrent, onStack, hstack, Stack.close, Stack.close, hplain.closeTop_eq,
    (hplain.addChild _).settle_eq]

/-- The names of the open elements, the innermost one first. -/
theorem names_eq {f : Frame} {below : Stack} (hstack : c.stack = f :: below) :
    c.names = f.name :: below.names := by
  rw [names, hstack]
  rfl

namespace IsOrderly

/-- What is noted of text that is on its way does not matter for what is open. -/
theorem congr (h : c.IsOrderly) (returnMode : Mode) (pending : List Char) (dropNewline : Bool) :
    IsOrderly { c with returnMode, pending, dropNewline } :=
  ⟨h.mode_eq, h.nested, h.model_eq, h.fostering_eq, h.plain, h.ids, h.fresh, h.formatting, h.form,
    h.form_open⟩

/-! ## What the rules look for -/

/-- The mode fits what can stand inside of the innermost element. -/
theorem mode_mem (h : c.IsOrderly) : c.mode ∈ modesIn (ground c.names) :=
  h.mode_eq ▸ h.nested.modeWithin_mem

/-- A search through the open elements is one through their names. -/
theorem hasWithin_eq (h : c.IsOrderly) (boundary : Frame → Bool) (stops : String → Bool)
    (wanted : List String) (hstops : ∀ f : Frame, f.IsPlain → boundary f = stops f.name) :
    c.hasWithin boundary wanted = isWithin stops wanted c.names :=
  h.plain.hasWithin_eq boundary stops wanted hstops

/-- An ordinary search is one through the names. -/
theorem hasWithin_scope (h : c.IsOrderly) (wanted : List String) :
    c.hasWithin scopeBoundary wanted = isWithin stopsScope wanted c.names :=
  h.hasWithin_eq scopeBoundary stopsScope wanted fun _ hf => Stack.scopeBoundary_eq hf

/-- Where a block ends no paragraph, closing a paragraph does nothing. -/
theorem closeParagraph_eq (h : c.IsOrderly) (hp : endsParagraph c.names = false) :
    c.closeParagraph = c := by
  have hbutton : c.hasWithin buttonBoundary ["p"] = endsParagraph c.names := by
    refine h.hasWithin_eq buttonBoundary _ ["p"] fun f hf => ?_
    rw [buttonBoundary, Stack.scopeBoundary_eq hf, hf.isHtml_eq]
  rw [closeParagraph, hbutton, hp]
  rfl

/-- The elements of all entries are open. -/
theorem isStale_eq (h : c.IsOrderly) {e : Formatting} (he : e ∈ c.formatting) :
    c.isStale e = false := by
  cases e with
  | marker => rfl
  | element id name attributes =>
    obtain ⟨f, hf, hid, -⟩ := h.formatting.exists_mem he
    rw [isStale, Bool.not_eq_false', Stack.isOpen, List.any_eq_true]
    exact ⟨f, hf, by simp [hid, (h.plain f hf).isOpen_eq]⟩

/-- There is no formatting to be opened again. -/
theorem reconstruct_eq (h : c.IsOrderly) : c.reconstruct = c := by
  have hnone : c.formatting.takeWhile c.isStale = [] := by
    cases hlist : c.formatting with
    | nil => rfl
    | cons e more =>
      rw [List.takeWhile_cons_of_neg]
      rw [h.isStale_eq (by simp [hlist])]
      decide
  rw [reconstruct, hnone]
  rfl

/-- New content goes where it stands. -/
theorem isDisplaced_eq (h : c.IsOrderly) : c.isDisplaced = false := by
  rw [isDisplaced, h.fostering_eq, Bool.false_and]

/-- Whether the innermost element has one of some names. -/
theorem currentIs_eq (h : c.IsOrderly) (wanted : List String) :
    c.currentIs (·.isHtmlIn wanted) = c.names.head?.any wanted.contains := by
  rw [currentIs, current?, names, Stack.names, List.head?_map]
  cases hstack : c.stack with
  | nil => rfl
  | cons f below => exact (h.plain f (by simp [hstack])).isHtmlIn_eq wanted

/-- Whether the innermost element has a name. -/
theorem currentIs_isHtml (h : c.IsOrderly) (name : String) :
    c.currentIs (·.isHtml name) = decide (c.names.head? = some name) := by
  rw [currentIs, current?, names, Stack.names, List.head?_map]
  cases hstack : c.stack with
  | nil => rfl
  | cons f below =>
    rw [List.head?_cons, Option.any_some, (h.plain f (by simp [hstack])).isHtml_eq]
    simp

/-- Nothing is finished where no end tag may be left out. -/
theorem closeImplied_eq (h : c.IsOrderly)
    (himplied : c.names.head?.any impliedEnds.contains = false) : c.closeImplied = c := by
  have hpop : c.stack.popWhile (·.isHtmlIn impliedEnds) = c.stack := by
    rw [← h.currentIs_eq, currentIs, current?] at himplied
    have hplain := h.plain
    generalize c.stack = s at himplied hplain
    cases s with
    | nil => rfl
    | cons f below => exact hplain.popWhile_eq himplied
  rw [closeImplied, onStack, hpop]

/-- Nothing inside of the innermost element has to be finished. -/
theorem clearTo_eq (h : c.IsOrderly) {f : Frame} {below : Stack} (hstack : c.stack = f :: below)
    {wanted : List String} (hwanted : wanted.contains f.name = true) : c.clearTo wanted = c := by
  have hplain : Stack.IsPlain (f :: below) := hstack ▸ h.plain
  have hfound : f.isHtmlIn ("html" :: wanted) = true := by
    rw [(hplain f (by simp)).isHtmlIn_eq, List.contains_cons, hwanted, Bool.or_true]
  rw [clearTo, onStack, hstack, hplain.popTo_eq hfound, ← hstack]

/-- What holds something other than flow content is the innermost element. -/
theorem exists_holder (h : c.IsOrderly) (hground : ground c.names ≠ .flow) :
    ∃ f below, c.stack = f :: below ∧ f.name ∈ holders (ground c.names) := by
  cases hstack : c.stack with
  | nil =>
    have hnested := h.nested
    rw [names, hstack] at hnested
    cases hnested
  | cons f below =>
    rw [names_eq hstack] at hground ⊢
    exact ⟨f, below, rfl, mem_holders f.name (Stack.names below) hground⟩

/-- Nothing has to be finished for a part of a table to be opened. -/
theorem clearTo_holders (h : c.IsOrderly) {g : Ground} (hground : ground c.names = g)
    (hg : g ≠ .flow) : c.clearTo (holders g) = c := by
  subst hground
  obtain ⟨f, below, hstack, hholds⟩ := h.exists_holder hg
  exact h.clearTo_eq hstack (List.contains_iff_mem.2 hholds)

/-! ## Changes to the innermost element -/

/-- A change to what the innermost element contains leaves the state orderly. -/
theorem setTop (h : c.IsOrderly) {f f' : Frame} {below : Stack} (hstack : c.stack = f :: below)
    (hkey : f'.key = f.key) (hplain : f'.IsPlain) {fresh : Nat} (hfresh : c.fresh ≤ fresh) :
    IsOrderly { c with stack := f' :: below, fresh } := by
  obtain ⟨hid, hname⟩ := Prod.mk.inj hkey
  -- A property of all frames that their keys decide is kept.
  have hall : ∀ P : Frame → Prop, (P f → P f') → (∀ k ∈ c.stack, P k) →
      ∀ k ∈ f' :: below, P k := by
    intro P hP hk k hmem
    rw [hstack] at hk
    rcases List.mem_cons.1 hmem with rfl | hmem
    · exact hP (hk f (by simp))
    · exact hk k (by simp [hmem])
  have hids : c.stack.map (·.id) = (f' :: below).map (·.id) := by simp [hstack, hid]
  have hnames : c.names = Stack.names (f' :: below) := by
    simp [names, Stack.names, hstack, hname]
  exact
    { mode_eq := h.mode_eq.trans (congrArg modeWithin hnames)
      nested := (congrArg NestInPlace hnames).mp h.nested
      model_eq := h.model_eq
      fostering_eq := h.fostering_eq
      plain := hall _ (fun _ => hplain) h.plain
      ids := hids ▸ h.ids
      fresh := hall _ (fun hf => by dsimp only at hf ⊢; omega)
        fun k hk => Nat.lt_of_lt_of_le (h.fresh k hk) hfresh
      formatting := (hstack ▸ h.formatting).congr_top hid hname
      form := hall _ (fun hf => by rwa [hname, hid]) h.form
      form_open := by
        intro id hform
        obtain ⟨k, hk, hfound⟩ := h.form_open id hform
        rw [hstack] at hk
        rcases List.mem_cons.1 hk with rfl | hk
        · exact ⟨f', by simp, by rwa [hname, hid]⟩
        · exact ⟨k, by simp [hk], hfound⟩ }

end IsOrderly

end Construction

end MarkupOutline.Html
