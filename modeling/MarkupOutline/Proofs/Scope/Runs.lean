import MarkupOutline.Scope

/-!
# Runs of actions

What holds of every run, whatever its actions are. A run can be cut anywhere: it goes on where its
first part has got to (`performAll_append`), so each row is what its action results in there
(`getElem?_performAll`).

Threads and copies are runs inside of a run. `Action.steps` lists an action together with all that
is performed inside of it, in the order in which it begins. A run changes the options in force in
its own scope only, and no brackets but those that one of its steps enters or leaves
(`Scope.keeps_performAll`): this is shown once, for one action after the other, and carries what is
said about brackets and about scopes.
-/

namespace MarkupOutline

/-! ## Scopes -/

namespace Scope

/-- A bracket that is entered keeps the options in force for when it is left. -/
@[simp] theorem brackets_enter_self (bracket : String) (o : Options) (s : Scope) :
    (s.enter bracket o).brackets bracket = some s.inForce := if_pos rfl

/-- Entering a bracket does not change another one. -/
theorem brackets_enter_of_ne {bracket other : String} (h : other ≠ bracket) (o : Options)
    (s : Scope) : (s.enter bracket o).brackets other = s.brackets other := if_neg h

/-- Leaving a bracket that is entered puts in force what it has kept. -/
theorem inForce_leave {bracket : String} {s : Scope} {before : Options}
    (h : s.brackets bracket = some before) : (s.leave bracket).inForce = before := by
  simp [leave, h]

/-- Leaving a bracket that is not entered changes nothing. -/
theorem leave_of_none {bracket : String} {s : Scope} (h : s.brackets bracket = none) :
    s.leave bracket = s := by
  simp [leave, h]

/-- Leaving a bracket does not reach the scopes around. -/
@[simp] theorem around_leave (bracket : String) (s : Scope) :
    (s.leave bracket).around = s.around := by
  unfold leave
  cases s.brackets bracket <;> rfl

/-- A bracket that is left is not entered any more. -/
@[simp] theorem brackets_leave_self (bracket : String) (s : Scope) :
    (s.leave bracket).brackets bracket = none := by
  unfold leave
  cases h : s.brackets bracket <;> simp [h]

/-- Leaving a bracket does not change another one. -/
theorem brackets_leave_of_ne {bracket other : String} (h : other ≠ bracket) (s : Scope) :
    (s.leave bracket).brackets other = s.brackets other := by
  unfold leave
  cases s.brackets bracket <;> simp [h]

/-- Where a scope was begun in another one, ending it leads back there with the brackets there are
by now. -/
theorem outer_of_around {s t : Scope} (h : t.around = s.inForce :: s.around) :
    t.outer = { s with brackets := t.brackets } := by
  simp [outer, h]

end Scope

namespace Action

/-! ## Rows -/

/-- A run has the row of its first action, and goes on where that action leads to. -/
theorem performAll_cons (s : Scope) (action : Action) (more : List Action) :
    performAll s (action :: more) =
      (((perform s action).1, (perform s action).2.inForce) ::
          (performAll (perform s action).2 more).1,
        (performAll (perform s action).2 more).2) := rfl

/-- Beginning a bracket enters it if the options for it can be settled. -/
theorem perform_enter {supplied : Supplied} {o : Options} (hsettled : supplied.settled = .ok o)
    (s : Scope) (bracket : String) :
    perform s (enter bracket supplied) = (.ok .nothing, s.enter bracket o) := by
  rw [perform, hsettled]

/-- A thread is a run that begins with the defaults, and leads back to where it was begun. -/
theorem perform_thread (s : Scope) (actions : List Action) :
    perform s (thread actions) =
      (.ok (.rows (performAll (s.inner Options.default) actions).1),
        (performAll (s.inner Options.default) actions).2.outer) := rfl

/-- A copy is a run that begins with the options in force, and leads back to where it was begun. -/
theorem perform_copy (s : Scope) (actions : List Action) :
    perform s (copy actions) =
      (.ok (.rows (performAll (s.inner s.inForce) actions).1),
        (performAll (s.inner s.inForce) actions).2.outer) := rfl

/-- A run goes on where its first part has got to. -/
theorem performAll_append (s : Scope) (before after : List Action) :
    performAll s (before ++ after) =
      ((performAll s before).1 ++ (performAll (performAll s before).2 after).1,
        (performAll (performAll s before).2 after).2) := by
  induction before generalizing s with
  | nil => rfl
  | cons action more ih =>
    rw [List.cons_append, performAll_cons, performAll_cons, ih, List.cons_append]

/-- A run has one row for each action. -/
theorem length_performAll (s : Scope) (actions : List Action) :
    (performAll s actions).1.length = actions.length := by
  induction actions generalizing s with
  | nil => rfl
  | cons action more ih =>
    rw [performAll_cons, List.length_cons, List.length_cons, ih]

/-- The row of an action has what the action results in where the run has got to, and the options
in force there afterwards. -/
theorem getElem?_performAll (s : Scope) (before after : List Action) (action : Action) :
    (performAll s (before ++ action :: after)).1[before.length]? =
      some ((perform (performAll s before).2 action).1,
        (perform (performAll s before).2 action).2.inForce) := by
  have hlength := length_performAll s before
  rw [performAll_append, List.getElem?_append_right (Nat.le_of_eq hlength), hlength, Nat.sub_self,
    performAll_cons, List.getElem?_cons_zero]

/-! ## Steps -/

mutual

/-- An action and all that is performed inside of it, in the order in which it begins. -/
def steps : Action → List Action
  | thread actions => thread actions :: allSteps actions
  | copy actions => copy actions :: allSteps actions
  | action => [action]

/-- The steps of actions one after the other. -/
def allSteps : List Action → List Action
  | [] => []
  | action :: more => action.steps ++ allSteps more

end

/-- The actions that an action performs in a scope of its own. -/
def inside : Action → List Action
  | thread actions => actions
  | copy actions => actions
  | _ => []

/-- The steps of an action are the action and the steps inside of it. -/
theorem steps_eq (action : Action) : action.steps = action :: allSteps action.inside := by
  cases action <;> rfl

/-- The bracket that an action enters. There is none where the options for it cannot be settled. -/
def entered? : Action → Option String
  | enter bracket supplied => if supplied.settled.isOk then some bracket else none
  | _ => none

/-- An action that begins a bracket enters it if the options for it can be settled. -/
theorem entered?_enter {supplied : Supplied} {o : Options} (hsettled : supplied.settled = .ok o)
    (bracket : String) : (enter bracket supplied).entered? = some bracket := by
  simp [entered?, hsettled, Except.isOk, Except.toBool]

/-- The bracket that an action leaves. -/
def left? : Action → Option String
  | leave bracket _ => some bracket
  | _ => none

/-- The brackets that are entered by actions or inside of them. -/
def entered (actions : List Action) : List String := (allSteps actions).filterMap entered?

/-- The brackets that are left by actions or inside of them. -/
def left (actions : List Action) : List String := (allSteps actions).filterMap left?

end Action

/-! ## What a run keeps -/

/-- From one scope to another, with the given steps on the way, nothing has happened to the scopes
around, nor to a bracket that no step enters or leaves. -/
structure Scope.Keeps (steps : List Action) (s t : Scope) : Prop where
  around : t.around = s.around
  brackets : ∀ bracket, bracket ∉ steps.filterMap Action.entered? →
    bracket ∉ steps.filterMap Action.left? → t.brackets bracket = s.brackets bracket

namespace Scope

variable {s t u : Scope} {steps more : List Action}

/-- Where nothing is changed everything is kept. -/
theorem Keeps.refl (steps : List Action) (s : Scope) : s.Keeps steps s := ⟨rfl, fun _ _ _ => rfl⟩

/-- What is kept on two stretches is kept on both together. -/
theorem Keeps.append (h : s.Keeps steps t) (hmore : t.Keeps more u) :
    s.Keeps (steps ++ more) u := by
  refine ⟨hmore.around.trans h.around, fun bracket hentered hleft => ?_⟩
  rw [List.filterMap_append, List.mem_append, not_or] at hentered hleft
  rw [hmore.brackets bracket hentered.2 hleft.2, h.brackets bracket hentered.1 hleft.1]

/-- Entering a bracket keeps what is not that bracket. -/
theorem keeps_enter {bracket : String} {supplied : Supplied} {o : Options}
    (hsettled : supplied.settled = .ok o) (s : Scope) :
    s.Keeps [.enter bracket supplied] (s.enter bracket o) := by
  refine ⟨rfl, fun other hentered _ => brackets_enter_of_ne ?_ o s⟩
  simpa [Action.entered?_enter hsettled] using hentered

/-- Leaving a bracket keeps what is not that bracket. -/
theorem keeps_leave (bracket : String) (failing : Bool) (s : Scope) :
    s.Keeps [.leave bracket failing] (s.leave bracket) := by
  refine ⟨around_leave bracket s, fun other _ hleft => brackets_leave_of_ne ?_ s⟩
  simpa [Action.left?] using hleft

/-- What is kept in a scope begun in another one is kept in that one. -/
theorem Keeps.outer {o : Options} (h : (s.inner o).Keeps steps t) : s.Keeps steps t.outer := by
  rw [outer_of_around h.around]
  exact ⟨rfl, h.brackets⟩

/-- An action by itself is a step like any other. -/
theorem Keeps.cons (action : Action) (h : s.Keeps steps t) : s.Keeps (action :: steps) t :=
  (Keeps.refl [action] s).append h

mutual

/-- An action keeps everything but the options in force and the brackets of its steps. -/
theorem keeps_perform (s : Scope) : ∀ action : Action,
    s.Keeps action.steps (action.perform s).2
  | .thread actions =>
    (keeps_performAll (s.inner Options.default) actions).outer.cons (.thread actions)
  | .copy actions => (keeps_performAll (s.inner s.inForce) actions).outer.cons (.copy actions)
  | .leave bracket failing => keeps_leave bracket failing s
  | .enter bracket supplied => by
    unfold Action.perform
    cases hsettled : supplied.settled with
    | error fault => exact Keeps.refl _ s
    | ok o => exact keeps_enter hsettled s
  | .set supplied => by
    unfold Action.perform
    cases supplied.settled with
    | error fault => exact Keeps.refl _ s
    | ok o => exact ⟨rfl, fun _ _ _ => rfl⟩
  | .reset => ⟨rfl, fun _ _ _ => rfl⟩
  | .get | .renderDefault _ | .resolve _ | .render _ _ | .outline _ _ | .outlineTree _ _
  | .format _ _ _ | .outlineIfMarkup _ _ => Keeps.refl _ s

/-- A run keeps everything but the options in force and the brackets of its steps. -/
theorem keeps_performAll (s : Scope) : ∀ actions : List Action,
    s.Keeps (Action.allSteps actions) (Action.performAll s actions).2
  | [] => Keeps.refl _ s
  | action :: more =>
    (keeps_perform s action).append (keeps_performAll (action.perform s).2 more)

end

/-- A run leads back to the scope around, whatever happens in it. -/
theorem outer_performAll (s : Scope) (o : Options) (actions : List Action) :
    (Action.performAll (s.inner o) actions).2.outer =
      { s with brackets := (Action.performAll (s.inner o) actions).2.brackets } :=
  outer_of_around (keeps_performAll (s.inner o) actions).around

/-- A run keeps what a bracket puts back if the bracket is neither entered nor left on the way. -/
theorem brackets_performAll {bracket : String} {actions : List Action}
    (hentered : bracket ∉ Action.entered actions) (hleft : bracket ∉ Action.left actions)
    (s : Scope) : (Action.performAll s actions).2.brackets bracket = s.brackets bracket :=
  (keeps_performAll s actions).brackets bracket hentered hleft

end Scope

end MarkupOutline
