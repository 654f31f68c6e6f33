import Mathlib.Tactic.Common

/-!
# Computations that may fail

What the steps of a computation with a result were, and going through a list in order: it has a
result if each item has one, and fails where the first item fails.
-/

namespace MarkupOutline

variable {ε α β : Type} {f : α → Except ε β}

/-! ## One step after the other -/

/-- A computation that goes on from a result has a result if both of its parts have one. -/
theorem bind_eq_ok_iff {r : Except ε α} {b : β} :
    (r >>= f) = .ok b ↔ ∃ a, r = .ok a ∧ f a = .ok b := by
  cases r with
  | error fault => exact ⟨nofun, nofun⟩
  | ok a => exact ⟨fun h => ⟨a, rfl, h⟩, fun ⟨_, ha, h⟩ => by cases ha; exact h⟩

/-- A computation without steps has what it is given as its result. -/
theorem pure_eq_ok_iff {a b : α} : (pure a : Except ε α) = .ok b ↔ a = b :=
  ⟨Except.ok.inj, congrArg Except.ok⟩

/-- What is made of a result is there if the result is. -/
theorem map_eq_ok_iff {g : α → β} {r : Except ε α} {b : β} :
    r.map g = .ok b ↔ ∃ a, r = .ok a ∧ g a = b := by
  cases r with
  | error fault => exact ⟨nofun, nofun⟩
  | ok a => simp [Except.map]

/-! ## Lists gone through in order -/

/-- Either all items of a list have a property, or there is a first one that has not. -/
theorem forall_or_exists_first (P : α → Prop) (items : List α) :
    (∀ a ∈ items, P a) ∨
      ∃ before a after, items = before ++ a :: after ∧ (∀ b ∈ before, P b) ∧ ¬ P a := by
  induction items with
  | nil => exact .inl nofun
  | cons a more ih =>
    by_cases ha : P a
    · rcases ih with hmore | ⟨before, b, after, rfl, hbefore, hb⟩
      · exact .inl (List.forall_mem_cons.2 ⟨ha, hmore⟩)
      · exact .inr ⟨a :: before, b, after, rfl, List.forall_mem_cons.2 ⟨ha, hbefore⟩, hb⟩
    · exact .inr ⟨[], a, more, rfl, nofun, ha⟩

/-- Going through a list has a result if each item has one. -/
theorem exists_mapM_eq_ok {items : List α} (h : ∀ a ∈ items, ∃ b, f a = .ok b) :
    ∃ bs, items.mapM f = .ok bs := by
  induction items with
  | nil => exact ⟨[], rfl⟩
  | cons a more ih =>
    obtain ⟨⟨b, hb⟩, hmore⟩ := List.forall_mem_cons.1 h
    obtain ⟨bs, hbs⟩ := ih hmore
    refine ⟨b :: bs, ?_⟩
    rw [List.mapM_cons, hb, hbs]
    rfl

/-- Going through two lists comes to the same if their items have the same results. -/
theorem mapM_eq_mapM {α' : Type} {g : α' → Except ε β} {items : List α} {items' : List α'}
    (h : items.map f = items'.map g) : items.mapM f = items'.mapM g := by
  have hf := List.mapM_map (f := f) (g := id) (l := items)
  have hg := List.mapM_map (f := g) (g := id) (l := items')
  rw [Function.id_comp] at hf hg
  rw [← hf, ← hg, h]

/-- What can be said of the result of each item can be said of the results of the list. -/
theorem map_eq_map_of_mapM_eq_ok {γ : Type} {g : β → γ} {k : α → γ} {items : List α} {bs : List β}
    (h : ∀ a ∈ items, ∀ b, f a = .ok b → g b = k a) (hbs : items.mapM f = .ok bs) :
    bs.map g = items.map k := by
  induction items generalizing bs with
  | nil =>
    obtain rfl := Except.ok.inj hbs
    rfl
  | cons a more ih =>
    obtain ⟨ha, hmore⟩ := List.forall_mem_cons.1 h
    rw [List.mapM_cons] at hbs
    cases hb : f a with
    | error fault => rw [hb] at hbs; cases hbs
    | ok b =>
      cases hrest : more.mapM f with
      | error fault => rw [hb, hrest] at hbs; cases hbs
      | ok rest =>
        rw [hb, hrest] at hbs
        obtain rfl := Except.ok.inj hbs
        rw [List.map_cons, List.map_cons, ha b hb, ih hmore hrest]

/-- Going through a list fails with its first item that fails. -/
theorem mapM_eq_error {before after : List α} {a : α} {fault : ε}
    (hbefore : ∀ b ∈ before, ∃ c, f b = .ok c) (ha : f a = .error fault) :
    (before ++ a :: after).mapM f = .error fault := by
  obtain ⟨bs, hbs⟩ := exists_mapM_eq_ok hbefore
  rw [List.mapM_append, hbs, List.mapM_cons, ha]
  rfl

end MarkupOutline
