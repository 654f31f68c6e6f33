import MarkupOutline.Proofs.Scope.Runs

/-!
# Threads and copies

Nothing that is put in force in a thread or in a copy is in force outside of it, whatever happens
there. As to what happens there, an action reads the options in force and, when it leaves a bracket,
what the bracket keeps. So two runs give the same rows if they begin with the same options in force
and leave no brackets but those that they have entered themselves: the scopes that they get to are
alike as far as their own brackets go (`Scope.alike_performAll`). A thread always begins with the
defaults and a copy with the options in force, and this is all that their rows depend on.
-/

namespace MarkupOutline

namespace Action

/-! ## Leaving brackets of one's own -/

/-- Whether each step that leaves a bracket comes after one that enters it. The brackets `own` have
been entered already. -/
def leavesOnly (own : List String) : List Action → Bool
  | [] => true
  | step :: more =>
    step.left?.all (own.contains ·) && leavesOnly (own ++ step.entered?.toList) more

/-- The second part of some steps can leave what the first part has entered. -/
theorem leavesOnly_append (own : List String) (before after : List Action) :
    leavesOnly own (before ++ after) =
      (leavesOnly own before && leavesOnly (own ++ before.filterMap entered?) after) := by
  induction before generalizing own with
  | nil => rw [List.nil_append, leavesOnly, Bool.true_and, List.filterMap_nil, List.append_nil]
  | cons step more ih =>
    have hentered : own ++ (step :: more).filterMap entered? =
        own ++ step.entered?.toList ++ more.filterMap entered? := by
      rw [List.filterMap_cons, List.append_assoc]
      cases step.entered? <;> rfl
    rw [List.cons_append, leavesOnly, leavesOnly, ih, hentered, Bool.and_assoc]

/-- In a scope begun for them, actions leave only what may be left outside or what they enter. -/
theorem leavesOnly_inside {own : List String} {action : Action}
    (hentered : action.entered? = none) (h : leavesOnly own action.steps = true) :
    leavesOnly own (allSteps action.inside) = true := by
  rw [steps_eq, leavesOnly, hentered, Option.toList_none, List.append_nil, Bool.and_eq_true] at h
  exact h.2

end Action

/-! ## Scopes that are alike -/

/-- Two scopes are alike for those who have entered the brackets `own`: the same options are in
force, and leaving one of the brackets puts back the same. -/
structure Scope.Alike (own : List String) (s t : Scope) : Prop where
  inForce : s.inForce = t.inForce
  brackets : ∀ bracket ∈ own, s.brackets bracket = t.brackets bracket

namespace Scope

variable {own more : List String} {s t : Scope}

theorem Alike.put (h : s.Alike own t) (o : Options) : (s.put o).Alike own (t.put o) :=
  ⟨rfl, h.brackets⟩

theorem Alike.inner (h : s.Alike own t) (o : Options) : (s.inner o).Alike own (t.inner o) :=
  ⟨rfl, h.brackets⟩

/-- A bracket that is entered in both scopes is one's own from then on. -/
theorem Alike.enter (h : s.Alike own t) (bracket : String) (o : Options) :
    (s.enter bracket o).Alike (own ++ [bracket]) (t.enter bracket o) := by
  refine ⟨rfl, fun other hother => ?_⟩
  by_cases hsame : other = bracket
  · rw [hsame, brackets_enter_self, brackets_enter_self, h.inForce]
  · have hown : other ∈ own := by simpa [hsame] using hother
    rw [brackets_enter_of_ne hsame, brackets_enter_of_ne hsame, h.brackets other hown]

/-- Leaving a bracket of one's own does the same in both scopes. -/
theorem Alike.leave (h : s.Alike own t) {bracket : String} (hown : bracket ∈ own) :
    (s.leave bracket).Alike own (t.leave bracket) := by
  have hkept := h.brackets bracket hown
  refine ⟨?_, fun other hother => ?_⟩
  · cases hs : s.brackets bracket with
    | none => rw [leave_of_none hs, leave_of_none (hkept.symm.trans hs), h.inForce]
    | some before => rw [inForce_leave hs, inForce_leave (hkept.symm.trans hs)]
  · by_cases hsame : other = bracket
    · rw [hsame, brackets_leave_self, brackets_leave_self]
    · rw [brackets_leave_of_ne hsame, brackets_leave_of_ne hsame, h.brackets other hother]

/-- Scopes begun in two others lead back to them, where the brackets are alike by now. -/
theorem Alike.outer {o o' : Options} {actions : List Action} (h : s.Alike own t)
    (hfinal : (Action.performAll (s.inner o) actions).2.Alike more
      (Action.performAll (t.inner o') actions).2) :
    (Action.performAll (s.inner o) actions).2.outer.Alike more
      (Action.performAll (t.inner o') actions).2.outer := by
  rw [outer_performAll, outer_performAll]
  exact ⟨h.inForce, hfinal.brackets⟩

/-- Brackets that are one's own in addition do not matter where there are none. -/
theorem Alike.of_nil (h : s.Alike own t) : s.Alike (own ++ []) t := by
  rwa [List.append_nil]

mutual

/-- An action that leaves only brackets of its own results in the same in scopes that are alike, and
they stay alike. -/
theorem alike_perform {own : List String} {s t : Scope} (h : s.Alike own t) : ∀ action : Action,
    Action.leavesOnly own action.steps = true →
      (action.perform s).1 = (action.perform t).1 ∧
        (action.perform s).2.Alike (own ++ action.steps.filterMap Action.entered?)
          (action.perform t).2
  | .thread actions, hown => by
    have hinside := Action.leavesOnly_inside rfl hown
    obtain ⟨hrows, hfinal⟩ := alike_performAll (h.inner Options.default) actions hinside
    rw [Action.perform_thread, Action.perform_thread, hrows]
    exact ⟨rfl, h.outer hfinal⟩
  | .copy actions, hown => by
    have hinside := Action.leavesOnly_inside rfl hown
    have hinner : (s.inner s.inForce).Alike own (t.inner t.inForce) := ⟨h.inForce, h.brackets⟩
    obtain ⟨hrows, hfinal⟩ := alike_performAll hinner actions hinside
    rw [Action.perform_copy, Action.perform_copy, hrows]
    exact ⟨rfl, h.outer hfinal⟩
  | .leave bracket failing, hown => by
    have hmem : bracket ∈ own := by
      simpa [Action.steps, Action.leavesOnly, Action.left?] using hown
    exact ⟨rfl, (h.leave hmem).of_nil⟩
  | .enter bracket supplied, _ => by
    unfold Action.perform
    cases hsettled : supplied.settled with
    | error fault =>
      have hnone : (Action.enter bracket supplied).entered? = none := by
        simp [Action.entered?, hsettled, Except.isOk, Except.toBool]
      rw [Action.steps_eq, List.filterMap_cons_none hnone]
      exact ⟨rfl, h.of_nil⟩
    | ok o =>
      rw [Action.steps_eq, List.filterMap_cons_some (Action.entered?_enter hsettled bracket)]
      exact ⟨rfl, h.enter bracket o⟩
  | .set supplied, _ => by
    unfold Action.perform
    cases supplied.settled with
    | error fault => exact ⟨rfl, h.of_nil⟩
    | ok o => exact ⟨rfl, (h.put o).of_nil⟩
  | .reset, _ => ⟨rfl, (h.put Options.default).of_nil⟩
  | .get, _ | .renderDefault _, _ | .resolve _, _ | .render _ _, _ | .outline _ _, _
  | .outlineTree _ _, _ | .format _ _ _, _ | .outlineIfMarkup _ _, _ => by
    refine ⟨?_, h.of_nil⟩
    unfold Action.perform
    rw [h.inForce]

/-- A run that leaves only brackets of its own gives the same rows in scopes that are alike, and
they stay alike. -/
theorem alike_performAll {own : List String} {s t : Scope} (h : s.Alike own t) :
    ∀ actions : List Action, Action.leavesOnly own (Action.allSteps actions) = true →
      (Action.performAll s actions).1 = (Action.performAll t actions).1 ∧
        (Action.performAll s actions).2.Alike
          (own ++ (Action.allSteps actions).filterMap Action.entered?)
          (Action.performAll t actions).2
  | [], _ => ⟨rfl, h.of_nil⟩
  | action :: more, hown => by
    rw [Action.allSteps, Action.leavesOnly_append, Bool.and_eq_true] at hown
    obtain ⟨hresult, hscope⟩ := alike_perform h action hown.1
    -- What the first action has entered can be left by the others.
    obtain ⟨hrows, hfinal⟩ := alike_performAll hscope more hown.2
    rw [Action.performAll_cons, Action.performAll_cons, Action.allSteps, List.filterMap_append,
      ← List.append_assoc, hresult, hscope.inForce, hrows]
    exact ⟨rfl, hfinal⟩

end

end Scope

/-! ## Isolation -/

namespace Action

/-- Where the same options are in force, actions that leave only brackets of their own give the same
rows. -/
theorem performAll_eq_of_inForce {actions : List Action}
    (hown : leavesOnly [] (allSteps actions) = true) {s t : Scope} (h : s.inForce = t.inForce) :
    (performAll s actions).1 = (performAll t actions).1 :=
  (Scope.alike_performAll ⟨h, fun _ hmem => absurd hmem List.not_mem_nil⟩ actions hown).1

/-- Whatever is done in a thread or in a copy, outside of it what was in force stays in force. If
only brackets that have been entered there are left there, then a thread has the same rows wherever
it is begun, those of a run that begins with the defaults, and a copy has the rows of a run that
begins with the options in force. -/
theorem isolated (actions : List Action) :
    (∀ s : Scope, (perform s (thread actions)).2.inForce = s.inForce ∧
      (perform s (copy actions)).2.inForce = s.inForce) ∧
    (leavesOnly [] (allSteps actions) = true →
      (∀ s t : Scope, (perform s (thread actions)).1 = (perform t (thread actions)).1) ∧
      (∀ s t : Scope, t.inForce = Options.default →
        (perform s (thread actions)).1 = .ok (.rows (performAll t actions).1)) ∧
      ∀ s t : Scope, t.inForce = s.inForce →
        (perform s (copy actions)).1 = .ok (.rows (performAll t actions).1)) := by
  refine ⟨fun s => ⟨?_, ?_⟩, fun hown => ⟨fun s t => ?_, fun s t ht => ?_, fun s t ht => ?_⟩⟩
  · rw [perform_thread, Scope.outer_performAll]
  · rw [perform_copy, Scope.outer_performAll]
  · have hbegun : (s.inner Options.default).inForce = (t.inner Options.default).inForce := rfl
    rw [perform_thread, perform_thread, performAll_eq_of_inForce hown hbegun]
  · have hbegun : (s.inner Options.default).inForce = t.inForce := ht.symm
    rw [perform_thread, performAll_eq_of_inForce hown hbegun]
  · have hbegun : (s.inner s.inForce).inForce = t.inForce := ht.symm
    rw [perform_copy, performAll_eq_of_inForce hown hbegun]

/-- A thread that puts options in force, leaves its brackets in the order in which it has entered
them and begins a copy and a thread of its own. -/
theorem isolated_nested :
    let lines (n : Int) : Supplied := .named [("attributes_per_line", .scalar (.int n))]
    let actions : List Action := [enter "outer" (lines 2), enter "inner" (lines 3),
      leave "outer" true, copy [get, set (lines 4), leave "inner" false], thread [reset, get], get]
    let s : Scope := { inForce := { attributesPerLine := 5 } }
    (perform s (thread actions)).2.inForce = { attributesPerLine := 5 } ∧
      (perform s (copy actions)).2.inForce = { attributesPerLine := 5 } ∧
      (perform s (thread actions)).1 = (perform {} (thread actions)).1 ∧
      (perform s (thread actions)).1 = .ok (.rows (performAll {} actions).1) ∧
      (perform s (copy actions)).1 = .ok (.rows (performAll s actions).1) := by
  intro lines actions s
  obtain ⟨hinForce, hrows⟩ := isolated actions
  obtain ⟨hanywhere, hthread, hcopy⟩ := hrows (by decide)
  exact ⟨(hinForce s).1, (hinForce s).2, hanywhere s {}, hthread s {} rfl, hcopy s s rfl⟩

end Action

end MarkupOutline
