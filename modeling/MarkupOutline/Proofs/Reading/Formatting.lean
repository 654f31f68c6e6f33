import MarkupOutline.Proofs.Reading.Stacks

/-!
# Formatting of open elements

While trees are rebuilt in place, the formatting in effect is that of open elements, in their order:
a formatting element is entered when it is opened, unless it has been dropped among too many like
it, and a marker stands for each element that formatting does not reach into (`InEffect`). So there
is nothing to open again, the innermost element is the first one to be entered, and a search up to
the first marker is a search through the names of the open elements.
-/

namespace MarkupOutline.Html

open Construction (sealingTags)

namespace Construction

/-- The names of all formatting elements. -/
def formattingNames : List String := "a" :: "nobr" :: formattingTags

/-- Formatting reaches into formatting elements. -/
theorem not_mem_sealingTags {name : String} (h : name ∈ formattingNames) : name ∉ sealingTags := by
  have hnames : ∀ n ∈ formattingNames, n ∉ sealingTags := by decide
  exact hnames name h

/-- The formatting in effect is that of the open elements. -/
inductive InEffect : List Formatting → Stack → Prop
  | nil : InEffect [] []
  /-- Most elements leave no entry. -/
  | skip {es : List Formatting} {s : Stack} {f : Frame} : f.name ∉ sealingTags → InEffect es s →
      InEffect es (f :: s)
  /-- A formatting element is entered. -/
  | entry {es : List Formatting} {s : Stack} {f : Frame} (attributes : List (String × String)) :
      f.name ∈ formattingNames → InEffect es s →
      InEffect (.element f.id f.name attributes :: es) (f :: s)
  /-- A marker is entered for an element that formatting does not reach into. -/
  | marker {es : List Formatting} {s : Stack} {f : Frame} : f.name ∈ sealingTags → InEffect es s →
      InEffect (.marker :: es) (f :: s)

namespace InEffect

variable {es : List Formatting} {s below : Stack} {f g : Frame}

/-- The element of an entry is open. -/
theorem exists_mem (h : InEffect es s) {id : Nat} {name : String}
    {attributes : List (String × String)} (he : .element id name attributes ∈ es) :
    ∃ f ∈ s, f.id = id ∧ f.name = name := by
  induction h with
  | nil => cases he
  | skip _ _ ih =>
    obtain ⟨f, hf, hfound⟩ := ih he
    exact ⟨f, List.mem_cons_of_mem _ hf, hfound⟩
  | entry _ _ _ ih =>
    rcases List.mem_cons.1 he with heq | he
    · cases heq
      exact ⟨_, List.mem_cons_self, rfl, rfl⟩
    · obtain ⟨f, hf, hfound⟩ := ih he
      exact ⟨f, List.mem_cons_of_mem _ hf, hfound⟩
  | marker _ _ ih =>
    rcases List.mem_cons.1 he with heq | he
    · cases heq
    · obtain ⟨f, hf, hfound⟩ := ih he
      exact ⟨f, List.mem_cons_of_mem _ hf, hfound⟩

/-- The formatting in effect stays the same when the innermost element changes but for its number
and its name. -/
theorem congr_top (h : InEffect es (f :: below)) (hid : g.id = f.id) (hname : g.name = f.name) :
    InEffect es (g :: below) := by
  cases h with
  | skip hother h => exact .skip (by rwa [hname]) h
  | entry attributes hmem h =>
    rw [← hid, ← hname]
    exact .entry attributes (by rwa [hname]) h
  | marker hmem h => exact .marker (by rwa [hname]) h

/-- The formatting in effect inside of an element that formatting does not reach into. -/
theorem eq_marker_cons (h : InEffect es (f :: below)) (hsealing : f.name ∈ sealingTags) :
    ∃ more, es = .marker :: more ∧ InEffect more below := by
  cases h with
  | skip hother h => exact absurd hsealing hother
  | entry attributes hmem h =>
    exact absurd hsealing (not_mem_sealingTags hmem)
  | marker _ h => exact ⟨_, rfl, h⟩

/-- Any other element either has no entry or the first one. -/
theorem cases_of_not_mem (h : InEffect es (f :: below)) (hother : f.name ∉ sealingTags) :
    InEffect es below ∨ ∃ attributes more, es = .element f.id f.name attributes :: more ∧
      f.name ∈ formattingNames ∧ InEffect more below := by
  cases h with
  | skip _ h => exact .inl h
  | entry attributes hmem h => exact .inr ⟨attributes, _, rfl, hmem, h⟩
  | marker hmem h => exact absurd hmem hother

/-- Entries of elements may be taken off, but markers may not. -/
theorem filter (h : InEffect es s) {p : Formatting → Bool} (hp : p .marker = true) :
    InEffect (es.filter p) s := by
  induction h with
  | nil => exact .nil
  | skip hother _ ih => exact .skip hother ih
  | entry attributes hmem _ ih =>
    rw [List.filter_cons]
    split
    · exact .entry attributes hmem ih
    · exact .skip (not_mem_sealingTags hmem) ih
  | marker hmem _ ih =>
    rw [List.filter_cons_of_pos hp]
    exact .marker hmem ih

/-- A search goes past an element that does not stop it. -/
theorem isWithin_cons (stops : String → Bool) (name : String) {other : String}
    (hstops : stops other = false) {names : List String}
    (h : isWithin stops [name] names = true) : isWithin stops [name] (other :: names) = true := by
  rw [isWithin, List.find?_cons]
  by_cases hother : other = name
  · simp [hother]
  · have hpast : (([name] : List String).contains other || stops other) = false := by
      simp [hother, hstops]
    rw [hpast]
    exact h

/-- A formatting element that is in effect up to the first marker is open within the elements that
formatting does not reach into. -/
theorem isWithin_of_recent (h : InEffect es s) {name : String} {e : Formatting}
    (he : e ∈ es.takeWhile fun e => !e.isMarker) (hname : e.hasName name = true) :
    isWithin sealingTags.contains [name] s.names = true := by
  induction h with
  | nil => cases he
  | skip hother _ ih => exact isWithin_cons _ name (contains_eq_false_iff.2 hother) (ih he)
  | @entry es s f attributes hmem _ ih =>
    rw [List.takeWhile_cons_of_pos rfl] at he
    rcases List.mem_cons.1 he with rfl | he
    · -- The search finds the element of the entry itself.
      have hfound : f.name = name := of_decide_eq_true hname
      rw [isWithin, Stack.names, List.map_cons, List.find?_cons_of_pos (by simp [hfound])]
      simp [hfound]
    · exact isWithin_cons _ name (contains_eq_false_iff.2 (not_mem_sealingTags hmem)) (ih he)
  | marker =>
    rw [List.takeWhile_cons_of_neg (by decide)] at he
    cases he

end InEffect

end Construction

end MarkupOutline.Html
