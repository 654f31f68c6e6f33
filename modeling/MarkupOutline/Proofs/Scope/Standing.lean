import MarkupOutline.Proofs.Scope.Runs
import MarkupOutline.Proofs.Traversal

/-!
# Options that come into force

Where the options come from that are in force after some step of a run: they were there in the
scope when the run began, they are the defaults, or a step has put them in force. So whatever is
true of all of these is true of the options in force throughout the run, also in the threads and
copies inside of it (`Scope.All.performAll`). The steps look at the options in force, at those of
the scopes around and at those that brackets keep, and at nothing else; these together are what has
to have the property (`Scope.All`).
-/

namespace MarkupOutline

/-! ## Scopes -/

/-- The options in force in a scope, those in the scopes around it and those that its brackets keep
all have a property. -/
structure Scope.All (P : Options → Prop) (s : Scope) : Prop where
  inForce : P s.inForce
  around : ∀ o ∈ s.around, P o
  brackets : ∀ bracket o, s.brackets bracket = some o → P o

namespace Scope

variable {P : Options → Prop} {s : Scope} {o : Options}

/-- Options with the property are put in force. -/
theorem All.put (h : s.All P) (ho : P o) : (s.put o).All P := ⟨ho, h.around, h.brackets⟩

/-- A bracket is entered. -/
theorem All.enter (h : s.All P) (ho : P o) (bracket : String) : (s.enter bracket o).All P := by
  refine ⟨ho, h.around, fun other before hkept => ?_⟩
  by_cases heq : other = bracket
  · subst heq
    rw [brackets_enter_self] at hkept
    exact Option.some.inj hkept ▸ h.inForce
  · rw [brackets_enter_of_ne heq] at hkept
    exact h.brackets other before hkept

/-- A bracket is left. -/
theorem All.leave (h : s.All P) (bracket : String) : (s.leave bracket).All P := by
  cases hkept : s.brackets bracket with
  | none => rwa [leave_of_none hkept]
  | some before =>
    refine ⟨?_, by rw [around_leave]; exact h.around, fun other o hother => ?_⟩
    · rw [inForce_leave hkept]
      exact h.brackets bracket before hkept
    · by_cases heq : other = bracket
      · subst heq
        rw [brackets_leave_self] at hother
        cases hother
      · rw [brackets_leave_of_ne heq] at hother
        exact h.brackets other o hother

/-- A scope is begun. -/
theorem All.inner (h : s.All P) (ho : P o) : (s.inner o).All P :=
  ⟨ho, List.forall_mem_cons.2 ⟨h.inForce, h.around⟩, h.brackets⟩

/-- The scope around is gone back to. -/
theorem All.outer (h : s.All P) : s.outer.All P := by
  unfold Scope.outer
  split
  · exact h
  · next o further heq =>
    have haround := h.around
    rw [heq, List.forall_mem_cons] at haround
    exact ⟨haround.1, haround.2, h.brackets⟩

end Scope

/-! ## Rows -/

/-- A row is one of some rows, or one of those that an action among them results in. -/
inductive Row.In (row : Row) : List Row → Prop
  | here {rows : List Row} (h : row ∈ rows) : row.In rows
  | inside {rows inner : List Row} {o : Options} (h : (.ok (.rows inner), o) ∈ rows)
      (hrow : row.In inner) : row.In rows

/-- What is true of the options after the first action, of the rows it results in and of the other
rows is true of all rows. -/
theorem forall_in_cons {P : Options → Prop} {result : Except Fault Outcome} {o : Options}
    {more : List Row} (ho : P o)
    (hresult : ∀ inner, result = .ok (.rows inner) → ∀ row : Row, row.In inner → P row.2)
    (hmore : ∀ row : Row, row.In more → P row.2) :
    ∀ row : Row, row.In ((result, o) :: more) → P row.2 := by
  rintro row (h | ⟨h, hrow⟩)
  · rcases List.mem_cons.1 h with rfl | h
    · exact ho
    · exact hmore row (.here h)
  · rcases List.mem_cons.1 h with heq | h
    · obtain ⟨rfl, rfl⟩ := Prod.mk.inj heq
      exact hresult _ rfl row hrow
    · exact hmore row (.inside h hrow)

/-! ## Runs -/

/-- What an action is supplied with in order to put options in force. -/
def Action.supplied? : Action → Option Supplied
  | set supplied => some supplied
  | enter _ supplied => some supplied
  | _ => none

/-- An action that only asks for something results in no rows. -/
theorem Action.answer_ne_rows (o : Options) (action : Action) (rows : List Row) :
    action.answer o ≠ .ok (.rows rows) := by
  cases action <;> simp only [answer, bind_eq_ok_iff, pure_eq_ok_iff, ne_eq, reduceCtorEq,
    and_false, exists_false, not_false_eq_true]

namespace Scope

variable {P : Options → Prop}

mutual

/-- After an action all options have a property that the defaults, those before and those that its
steps put in force have. -/
theorem All.perform (hdefault : P Options.default) : ∀ (action : Action) {s : Scope}, s.All P →
    (∀ step ∈ action.steps, ∀ supplied o, step.supplied? = some supplied →
      supplied.settled = .ok o → P o) →
      (action.perform s).2.All P ∧
      ∀ rows, (action.perform s).1 = .ok (.rows rows) → ∀ row : Row, row.In rows → P row.2
  | .thread actions, s, h, hsteps => by
    -- What is put in force inside can outlast the thread in a bracket, so the scope after it is
    -- not the one before.
    obtain ⟨hfinal, hrows⟩ := All.performAll hdefault actions (h.inner hdefault)
      fun step hstep => hsteps step (List.mem_cons_of_mem _ hstep)
    refine ⟨hfinal.outer, fun rows heq => ?_⟩
    cases heq
    exact hrows
  | .copy actions, s, h, hsteps => by
    obtain ⟨hfinal, hrows⟩ := All.performAll hdefault actions (h.inner h.inForce)
      fun step hstep => hsteps step (List.mem_cons_of_mem _ hstep)
    refine ⟨hfinal.outer, fun rows heq => ?_⟩
    cases heq
    exact hrows
  | .set supplied, s, h, hsteps => by
    have hputs := hsteps (.set supplied) (List.mem_singleton_self _) supplied
    unfold Action.perform
    cases hsettled : supplied.settled with
    | error fault => exact ⟨h, nofun⟩
    | ok o => exact ⟨h.put (hputs o rfl hsettled), nofun⟩
  | .enter bracket supplied, s, h, hsteps => by
    have hputs := hsteps (.enter bracket supplied) (List.mem_singleton_self _) supplied
    unfold Action.perform
    cases hsettled : supplied.settled with
    | error fault => exact ⟨h, nofun⟩
    | ok o => exact ⟨h.enter (hputs o rfl hsettled) bracket, nofun⟩
  | .reset, s, h, _ => ⟨h.put hdefault, nofun⟩
  | .leave bracket failing, s, h, _ => ⟨h.leave bracket, by cases failing <;> exact nofun⟩
  | .get, s, h, _ | .renderDefault _, s, h, _ | .resolve _, s, h, _ | .render _ _, s, h, _
  | .outline _ _, s, h, _ | .outlineTree _ _, s, h, _ | .format _ _ _, s, h, _
  | .outlineIfMarkup _ _, s, h, _ =>
    ⟨h, fun rows heq => by
      unfold Action.perform at heq
      dsimp only at heq
      exact absurd heq (Action.answer_ne_rows _ _ rows)⟩

/-- After a run, and after each step of it, all options have a property that the defaults, those
before and those that the steps put in force have. -/
theorem All.performAll (hdefault : P Options.default) : ∀ (actions : List Action) {s : Scope},
    s.All P → (∀ step ∈ Action.allSteps actions, ∀ supplied o, step.supplied? = some supplied →
      supplied.settled = .ok o → P o) →
      (Action.performAll s actions).2.All P ∧
      ∀ row : Row, row.In (Action.performAll s actions).1 → P row.2
  | [], s, h, _ => by
    refine ⟨h, fun row hrow => ?_⟩
    rcases hrow with hrow | ⟨hrow, -⟩ <;> cases hrow
  | action :: more, s, h, hsteps => by
    rw [Action.allSteps, List.forall_mem_append] at hsteps
    obtain ⟨hafter, hresult⟩ := All.perform hdefault action h hsteps.1
    obtain ⟨hfinal, hrows⟩ := All.performAll hdefault more hafter hsteps.2
    rw [Action.performAll_cons]
    exact ⟨hfinal, forall_in_cons hafter.inForce hresult hrows⟩

end

end Scope

end MarkupOutline
