import MarkupOutline.Proofs.Scope.Runs

/-!
# Brackets

Whatever happens between the two ends of a bracket, leaving it puts back what was in force when it
was entered. A bracket keeps this from its entry on, and only another entry under its name or its
being left, here or in a scope inside of this one, does away with what it keeps
(`Scope.brackets_performAll`); what is put in force in between does not matter, nor does the order
in which other brackets are left.

In properly nested actions nothing is left that has not been entered there before
(`Nested.mem_entered`), so that a block cannot be left early by what is inside of it.
-/

namespace MarkupOutline

namespace Action

/-! ## Nested actions -/

/-- The steps of actions one after the other are those of the first part and of the second. -/
theorem allSteps_append (before after : List Action) :
    allSteps (before ++ after) = allSteps before ++ allSteps after := by
  induction before with
  | nil => rfl
  | cons action more ih => rw [List.cons_append, allSteps, allSteps, ih, List.append_assoc]

/-- Properly nested actions: each bracket that is entered is left after the actions in between,
which are nested themselves and do not enter another bracket under its name. An action by itself is
nested if it is no end of a bracket and the actions inside of it are nested. -/
inductive Nested : List Action → Prop where
  | nil : Nested []
  | action {action : Action} {more : List Action} (hentered : action.entered? = none)
      (hleft : action.left? = none) (hinside : Nested action.inside) (hmore : Nested more) :
      Nested (action :: more)
  | block {bracket : String} {supplied : Supplied} {o : Options} {body more : List Action}
      (hsettled : supplied.settled = .ok o) (hfresh : bracket ∉ entered body)
      (hbody : Nested body) (failing : Bool) (hmore : Nested more) :
      Nested (enter bracket supplied :: (body ++ leave bracket failing :: more))

/-- The brackets entered by actions one after the other are those of the first and of the rest. -/
theorem entered_cons (action : Action) (more : List Action) :
    entered (action :: more) = action.entered?.toList ++ entered action.inside ++ entered more := by
  unfold entered
  rw [allSteps, steps_eq, List.cons_append, List.filterMap_cons, List.filterMap_append]
  cases action.entered? <;> rfl

/-- The brackets left by actions one after the other are those of the first and of the rest. -/
theorem left_cons (action : Action) (more : List Action) :
    left (action :: more) = action.left?.toList ++ left action.inside ++ left more := by
  unfold left
  rw [allSteps, steps_eq, List.cons_append, List.filterMap_cons, List.filterMap_append]
  cases action.left? <;> rfl

/-- The brackets entered in two parts are those of both. -/
theorem entered_append (before after : List Action) :
    entered (before ++ after) = entered before ++ entered after := by
  rw [entered, allSteps_append, List.filterMap_append, entered, entered]

/-- The brackets left in two parts are those of both. -/
theorem left_append (before after : List Action) :
    left (before ++ after) = left before ++ left after := by
  rw [left, allSteps_append, List.filterMap_append, left, left]

/-- Entering a bracket is the first of the entries. -/
theorem entered_enter {supplied : Supplied} {o : Options} (hsettled : supplied.settled = .ok o)
    (bracket : String) (more : List Action) :
    entered (enter bracket supplied :: more) = bracket :: entered more := by
  rw [entered_cons, entered?_enter hsettled]
  rfl

/-- Leaving a bracket is the first of the exits. -/
theorem left_leave (bracket : String) (failing : Bool) (more : List Action) :
    left (leave bracket failing :: more) = bracket :: left more := rfl

/-- Nested actions leave only what they enter. -/
theorem Nested.mem_entered {actions : List Action} (h : Nested actions) {bracket : String}
    (hleft : bracket ∈ left actions) : bracket ∈ entered actions := by
  induction h with
  | nil => exact hleft
  | action hnoEntry hnoExit _ _ ihinside ihmore =>
    rw [left_cons, hnoExit, Option.toList_none, List.nil_append, List.mem_append] at hleft
    rw [entered_cons, hnoEntry, Option.toList_none, List.nil_append, List.mem_append]
    exact hleft.imp ihinside ihmore
  | @block own supplied o body more hsettled _ _ failing _ ihbody ihmore =>
    -- The two ends of the block count once each: the one as an entry, the other as an exit.
    change bracket ∈ left (body ++ leave own failing :: more) at hleft
    have hmore : entered (leave own failing :: more) = entered more := rfl
    rw [entered_enter hsettled, entered_append, hmore, List.mem_cons, List.mem_append]
    rw [left_append, left_leave, List.mem_append, List.mem_cons] at hleft
    rcases hleft with hleft | rfl | hleft
    · exact .inr (.inl (ihbody hleft))
    · exact .inl rfl
    · exact .inr (.inr (ihmore hleft))

/-! ## Leaving a bracket -/

/-- A bracket that is neither entered nor left on the way is left with what was in force when it
was entered. -/
theorem inForce_leave_performAll {bracket : String} {between : List Action}
    (hentered : bracket ∉ entered between) (hleft : bracket ∉ left between) (o : Options)
    (s : Scope) :
    ((performAll (s.enter bracket o) between).2.leave bracket).inForce = s.inForce := by
  have hkept : (performAll (s.enter bracket o) between).2.brackets bracket = some s.inForce := by
    rw [Scope.brackets_performAll hentered hleft, Scope.brackets_enter_self]
  exact Scope.inForce_leave hkept

/-- What is in force right after a bracket is left for the first time, for good or because of a
failure, is what was in force right before it was entered, whatever happens in between: other
options put in force, other brackets entered and left in any order, threads and copies. So a nested
block leaves the options in force as it has found them. Runs begin in any scope, those in threads
and copies among them. -/
theorem inForce_restored {supplied : Supplied} {o : Options} (hsettled : supplied.settled = .ok o)
    (s : Scope) (bracket : String) (failing : Bool) :
    (∀ before between after : List Action, bracket ∉ entered between → bracket ∉ left between →
      let opening := before ++ enter bracket supplied :: between
      (performAll s (opening ++ leave bracket failing :: after)).1[opening.length]? =
        some (.ok (if failing then .propagated else .nothing),
          (performAll s before).2.inForce)) ∧
      ∀ body : List Action, Nested body → bracket ∉ entered body →
        (performAll s (enter bracket supplied :: (body ++ [leave bracket failing]))).2.inForce =
          s.inForce := by
  have hrestored : ∀ (t : Scope) (between : List Action), bracket ∉ entered between →
      bracket ∉ left between →
      ((performAll t (enter bracket supplied :: between)).2.leave bracket).inForce = t.inForce := by
    intro t between hentered hleft
    rw [performAll_cons, perform_enter hsettled]
    exact inForce_leave_performAll hentered hleft o t
  refine ⟨fun before between after hentered hleft => ?_, fun body hbody hfresh => ?_⟩
  · intro opening
    have hscope : (performAll s opening).2 =
        (performAll (performAll s before).2 (enter bracket supplied :: between)).2 := by
      rw [performAll_append]
    rw [getElem?_performAll, hscope]
    exact congrArg _ (congrArg _ (hrestored _ between hentered hleft))
  · have hleft : bracket ∉ left body := fun h => hfresh (hbody.mem_entered h)
    rw [← List.cons_append, performAll_append]
    exact hrestored s body hfresh hleft

/-- Where the outer one of two brackets is left first, leaving the inner one puts the options of the
outer one in force again. A block that fails, with another one and a thread inside of it, leaves the
options in force as they are. -/
theorem inForce_restored_crossing :
    let lines (n : Int) : Supplied := .named [("attributes_per_line", .scalar (.int n))]
    let crossing : List Action := [enter "outer" (lines 2), enter "inner" (lines 3),
      leave "outer" false, reset, leave "inner" true, get]
    let block : List Action := [enter "inner" (lines 3), thread [set (lines 4)],
      enter "other" (lines 6), reset, leave "other" false, set (lines 7), leave "inner" true]
    let s : Scope := { inForce := { attributesPerLine := 5 } }
    (performAll s crossing).1[4]? = some (.ok .propagated, { attributesPerLine := 2 }) ∧
      (performAll s block).2.inForce = { attributesPerLine := 5 } := by
  intro lines crossing block s
  have hsettled (n : Nat) : (lines n).settled = .ok { attributesPerLine := n } := rfl
  obtain ⟨hleft, hblock⟩ := inForce_restored (hsettled 3) s "inner" true
  have hreset : Nested [reset] := .action rfl rfl .nil .nil
  have hset (n : Int) : Nested [set (lines n)] := .action rfl rfl .nil .nil
  have hinner : Nested (enter "other" (lines 6) :: ([reset] ++ leave "other" false ::
      [set (lines 7)])) :=
    .block (hsettled 6) (by decide) hreset false (hset 7)
  have hbody : Nested [thread [set (lines 4)], enter "other" (lines 6), reset,
      leave "other" false, set (lines 7)] :=
    .action rfl rfl (hset 4) hinner
  exact ⟨hleft [enter "outer" (lines 2)] [leave "outer" false, reset] [get] (by decide) (by decide),
    hblock _ hbody (by decide)⟩

end Action

end MarkupOutline
