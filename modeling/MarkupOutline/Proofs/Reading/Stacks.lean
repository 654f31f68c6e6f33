import MarkupOutline.Html.Construction.Body
import MarkupOutline.Proofs.Reading.Placed

/-!
# Stacks of ordinary elements

While trees are rebuilt in place, every open element is an ordinary HTML element: it counts as open
and its content goes nowhere else. On such a stack searches see the names of the elements only, and
whatever finishes the innermost element hands its tree to the one around it and nothing more.
-/

namespace MarkupOutline.Html

/-- A frame of an ordinary element. -/
structure Frame.IsPlain (f : Frame) : Prop where
  isOpen_eq : f.isOpen = true
  space_eq : f.space = .html
  fostered_eq : f.fostered = false

namespace Frame

variable {f : Frame}

/-- Whether an ordinary element has one of some names. -/
theorem IsPlain.isHtmlIn_eq (h : f.IsPlain) (names : List String) :
    f.isHtmlIn names = names.contains f.name := by
  simp [isHtmlIn, h.space_eq]

/-- Whether an ordinary element has a name. -/
theorem IsPlain.isHtml_eq (h : f.IsPlain) (name : String) :
    f.isHtml name = decide (f.name = name) := by
  simp [isHtml, h.space_eq]

/-- An ordinary element stays one with another child. -/
theorem IsPlain.addChild (h : f.IsPlain) (child : Tailed) : (f.addChild child).IsPlain :=
  ⟨h.isOpen_eq, h.space_eq, h.fostered_eq⟩

/-- An ordinary element stays one with more text. -/
theorem IsPlain.addText (h : f.IsPlain) (s : String) : (f.addText s).IsPlain := by
  unfold Frame.addText
  split <;> exact ⟨h.isOpen_eq, h.space_eq, h.fostered_eq⟩

end Frame

/-- A stack of ordinary elements. -/
def Stack.IsPlain (s : Stack) : Prop := ∀ f ∈ s, f.IsPlain

/-- The names of the open elements, innermost first. -/
def Stack.names (s : Stack) : List String := s.map (·.name)

namespace Stack

variable {s : Stack} {f g : Frame} {below : Stack}

/-- A part of a stack of ordinary elements is one. -/
theorem IsPlain.tail (h : IsPlain (f :: s)) : s.IsPlain := fun g hg => h g (by simp [hg])

/-- An ordinary element is put on a stack of such elements. -/
theorem IsPlain.cons (hf : f.IsPlain) (h : s.IsPlain) : IsPlain (f :: s) :=
  List.forall_mem_cons.2 ⟨hf, h⟩

/-! ## Searches -/

/-- All elements count as open. -/
theorem IsPlain.openFrames_eq (h : s.IsPlain) : s.openFrames = s := by
  rw [openFrames, List.filter_eq_self]
  exact fun f hf => (h f hf).isOpen_eq

/-- A search through ordinary elements is one through their names. -/
theorem IsPlain.hasWithin_eq (h : s.IsPlain) (boundary : Frame → Bool) (stops : String → Bool)
    (wanted : List String) (hstops : ∀ f : Frame, f.IsPlain → boundary f = stops f.name) :
    s.hasWithin boundary (fun f => f.isHtmlIn wanted) = isWithin stops wanted s.names := by
  rw [hasWithin, findWithin, h.openFrames_eq]
  induction s with
  | nil => rfl
  | cons f below ih =>
    have hf := h f (by simp)
    have hwanted := hf.isHtmlIn_eq wanted
    have hrest := ih h.tail
    rw [isWithin, names, List.map_cons, List.find?_cons, List.find?_cons, hwanted,
      hstops f hf]
    cases hfound : wanted.contains f.name || stops f.name with
    | true =>
      simp only [Option.filter, hwanted, Option.any_some]
      cases wanted.contains f.name <;> rfl
    | false => exact hrest

/-- What stops an ordinary search depends on the name of an ordinary element. -/
theorem scopeBoundary_eq {f : Frame} (h : f.IsPlain) : scopeBoundary f = stopsScope f.name := by
  rw [scopeBoundary, h.space_eq]
  rfl

/-! ## Finishing -/

/-- Nothing has to be finished where all elements count as open. -/
theorem IsPlain.settle_eq (h : s.IsPlain) : s.settle = s := by
  cases s with
  | nil => rfl
  | cons f below =>
    rw [settle, List.takeWhile_cons_of_neg (by simp [(h f (by simp)).isOpen_eq])]
    rfl

/-- The innermost element finished. -/
theorem IsPlain.closeTop_eq (h : IsPlain (f :: g :: below)) :
    closeTop (f :: g :: below) = g.addChild f.toTailed :: below := by
  rw [closeTop, (h f (by simp)).fostered_eq]
  rfl

/-- The stack stays one of ordinary elements when the innermost element is finished. -/
theorem IsPlain.addChild (h : IsPlain (f :: g :: below)) (child : Tailed) :
    IsPlain (g.addChild child :: below) :=
  .cons ((h g (by simp)).addChild child) h.tail.tail

/-- A search that finds the innermost element finishes it. -/
theorem IsPlain.popThrough_eq (h : IsPlain (f :: g :: below)) {p : Frame → Bool}
    (hp : p f = true) : popThrough p (f :: g :: below) = g.addChild f.toTailed :: below := by
  rw [popThrough, List.takeWhile_cons_of_neg (by simp [(h f (by simp)).isOpen_eq, hp]),
    List.length_nil, close, close, h.closeTop_eq, (h.addChild _).settle_eq]

/-- Nothing is finished if the innermost element does not have the property. -/
theorem IsPlain.popWhile_eq (h : IsPlain (f :: below)) {p : Frame → Bool} (hp : p f = false) :
    popWhile p (f :: below) = f :: below := by
  rw [popWhile, List.takeWhile_cons_of_neg (by simp [(h f (by simp)).isOpen_eq, hp])]
  exact h.settle_eq

/-- Nothing inside of the innermost element has to be finished. -/
theorem IsPlain.popTo_eq (h : IsPlain (f :: below)) {p : Frame → Bool} (hp : p f = true) :
    popTo p (f :: below) = f :: below := by
  rw [popTo, List.takeWhile_cons_of_neg (by simp [(h f (by simp)).isOpen_eq, hp])]
  rfl

/-- The innermost element is finished as soon as it no longer counts as open. -/
theorem IsPlain.remove_eq (h : IsPlain (f :: g :: below)) (hids : ∀ k ∈ g :: below, k.id ≠ f.id) :
    remove f.id (f :: g :: below) = g.addChild f.toTailed :: below := by
  have hg := h g (by simp)
  have hrest : (g :: below).map (fun k => if k.id = f.id then { k with isOpen := false } else k) =
      g :: below := by
    refine (List.map_congr_left fun k hk => ?_).trans (List.map_id' _)
    exact if_neg (hids k hk)
  rw [remove, List.map_cons, if_pos rfl, hrest, settle, List.takeWhile_cons_of_pos (by simp),
    List.takeWhile_cons_of_neg (by simp [hg.isOpen_eq]), List.length_singleton, close, close,
    closeTop]
  dsimp only
  rw [(h f (by simp)).fostered_eq]
  rfl

/-- A search whose target is the innermost element finds it, whatever stops the search. -/
theorem IsPlain.findWithin_top (h : IsPlain (f :: below)) (boundary : Frame → Bool)
    {p : Frame → Bool} (hp : p f = true) : findWithin boundary p (f :: below) = some f := by
  rw [findWithin, h.openFrames_eq, List.find?_cons_of_pos (by simp [hp])]
  simp [Option.filter, hp]

end Stack

end MarkupOutline.Html
