import MarkupOutline.Proofs.Options.Choices
import MarkupOutline.Proofs.Scope.Runs

/-!
# Options as an argument

Which of the actions in a scope read the options in force, and when. An action that takes options as
an argument uses nothing of the scope but what its request resolves to there (`answer_congr`), so
that it does the same wherever its request resolves to the same. Only a request for the options in
force depends on the scope; options read from entries are completed by the defaults, and options
that have been read already are what they are.
-/

namespace MarkupOutline

/-! ## Requests that resolve to the same -/

section Congruence

variable {o o' : Options} {request request' : Request}

theorem renderDraft_congr (h : request.resolve o = request'.resolve o') (d : Draft) :
    renderDraft o request d = renderDraft o' request' d := by
  rw [renderDraft, renderDraft, h]

theorem outlineOf_congr (h : request.resolve o = request'.resolve o') (source : Source) :
    outlineOf o request source = outlineOf o' request' source := by
  cases source with
  | draft d =>
    cases d with
    | fragment children => exact renderDraft_congr h _
    | _ => rfl
  | value v => rw [outlineOf, outlineOf, h]

theorem format_congr (h : request.resolve o = request'.resolve o') (formatter : Formatter)
    (v : Value) : format o request formatter v = format o' request' formatter v := by
  cases formatter with
  | custom apply => rfl
  | chosen choice => rw [format, format, outlineOf_congr h]

theorem outlineIfMarkup_congr (h : request.resolve o = request'.resolve o') (v : Value) :
    outlineIfMarkup o request v = outlineIfMarkup o' request' v := by
  rw [outlineIfMarkup, outlineIfMarkup, outlineOf_congr h]

end Congruence

/-! ## Supplied options -/

namespace Supplied

/-- Whether nothing is supplied: the argument is left out, or it is the absent value. -/
def isNothing : Supplied → Bool
  | absent => true
  | value (.scalar .null) => true
  | _ => false

/-- Options supplied as they are, by the values of their settings. -/
def ofOptions (o : Options) : Supplied := .named o.toAssignment.named

/-- What supplying options as an argument resolves to where `o` is in force. -/
def resolved (o : Options) (supplied : Supplied) : Except Fault (Options × List Notice) :=
  supplied.asked.map fun request => request.resolve o

/-- Where nothing is supplied, the options in force are asked for. -/
theorem resolved_of_isNothing {supplied : Supplied} (h : supplied.isNothing = true) (o : Options) :
    supplied.resolved o = .ok (o, []) := by
  unfold isNothing at h
  split at h
  · rfl
  · rfl
  · contradiction

/-- What a value that is not the absent one asks for does not depend on the options in force. -/
theorem resolve_ofValue {v : Value} (h : (value v).isNothing = false) (o o' : Options) :
    (Request.ofValue v).resolve o = (Request.ofValue v).resolve o' := by
  cases v with
  | scalar x =>
    cases x with
    | null => contradiction
    | _ => rfl
  | _ => rfl

/-- Values by name ask for the options they amount to. -/
theorem asked_named (values : List (String × Value)) :
    (named values).asked =
      ((ofNamed values).mapError Fault.unknownOption).map fun given => .options given.1 := by
  have hrequest : (named values).request =
      (ofNamed values).map fun given => (.options given.1, given.2) := rfl
  rw [asked, hrequest]
  cases ofNamed values <;> rfl

/-- Where something is supplied, it does not matter which options are in force. -/
theorem resolved_of_not_isNothing {supplied : Supplied} (h : supplied.isNothing = false)
    (o o' : Options) : supplied.resolved o = supplied.resolved o' := by
  cases supplied with
  | absent => contradiction
  | entries es => rfl
  | named values =>
    rw [resolved, resolved, asked_named]
    cases ofNamed values <;> rfl
  | value v => exact congrArg Except.ok (resolve_ofValue h o o')

/-- Options supplied as they are ask for themselves. -/
theorem asked_ofOptions (o : Options) : (ofOptions o).asked = .ok (.options o) := by
  have hkeys : Entries.ofList o.toAssignment.named = o.toAssignment.named :=
    Entries.ofList_of_nodup (Assignment.nodup_named o.toAssignment)
  have hread : ofNamed o.toAssignment.named = .ok (Options.ofAssignment o.toAssignment) := by
    rw [ofNamed, hkeys, Options.ofNamed_named]
  rw [ofOptions, asked_named, hread]
  exact congrArg (fun given => Except.ok (Request.options given)) o.ofAssignment_toAssignment

/-- Options supplied as they are resolve to themselves. -/
theorem resolved_ofOptions (o p : Options) : (ofOptions o).resolved p = .ok (o, []) := by
  rw [resolved, asked_ofOptions]
  rfl

/-- What is done with a request depends on the scope only in what it resolves to there, if this is
so for each request. -/
theorem asked_bind_congr {α : Type} {supplied other : Supplied} {o o' : Options}
    (h : supplied.resolved o = other.resolved o') {f g : Request → Except Fault α}
    (hfg : ∀ request request', request.resolve o = request'.resolve o' → f request = g request') :
    supplied.asked >>= f = other.asked >>= g := by
  unfold resolved at h
  cases hasked : supplied.asked with
  | error fault =>
    cases hother : other.asked with
    | error fault' =>
      rw [hasked, hother] at h
      exact congrArg Except.error (Except.error.inj h)
    | ok request' => rw [hasked, hother] at h; contradiction
  | ok request =>
    cases hother : other.asked with
    | error fault' => rw [hasked, hother] at h; contradiction
    | ok request' =>
      rw [hasked, hother] at h
      exact hfg request request' (Except.ok.inj h)

end Supplied

namespace Action

/-! ## Actions that take options -/

/-- The options that an action takes as an argument. -/
def argument? : Action → Option Supplied
  | resolve supplied => some supplied
  | render _ supplied => some supplied
  | outline _ supplied => some supplied
  | outlineTree _ supplied => some supplied
  | format _ _ supplied => some supplied
  | outlineIfMarkup _ supplied => some supplied
  | _ => none

/-- The action with other options as its argument. -/
def withArgument (other : Supplied) : Action → Action
  | resolve _ => resolve other
  | render tree _ => render tree other
  | outline markup _ => outline markup other
  | outlineTree tree _ => outlineTree tree other
  | format markup formatter _ => format markup formatter other
  | outlineIfMarkup v _ => outlineIfMarkup v other
  | action => action

/-- An action has its argument already. -/
theorem withArgument_self {action : Action} {supplied : Supplied}
    (h : action.argument? = some supplied) : action.withArgument supplied = action := by
  cases action with
  | resolve | render | outline | outlineTree | format | outlineIfMarkup => cases h; rfl
  | _ => contradiction

/-- An action with another argument has that argument. -/
theorem argument?_withArgument {action : Action} {supplied : Supplied}
    (h : action.argument? = some supplied) (other : Supplied) :
    (action.withArgument other).argument? = some other := by
  cases action with
  | resolve | render | outline | outlineTree | format | outlineIfMarkup => rfl
  | _ => contradiction

/-- What an action results in depends on the scope and on its argument only in what the argument
resolves to there. -/
theorem answer_congr {action : Action} {supplied other : Supplied} {o o' : Options}
    (h : action.argument? = some supplied) (hresolved : supplied.resolved o = other.resolved o') :
    action.answer o = (action.withArgument other).answer o' := by
  cases action with
  | resolve given =>
    cases h
    exact Supplied.asked_bind_congr hresolved fun request request' hsame => by rw [hsame]
  | render tree given =>
    cases h
    refine congrArg (loadTree tree >>= ·) (funext fun d => ?_)
    exact Supplied.asked_bind_congr hresolved fun request request' hsame => by
      rw [renderDraft_congr hsame]
  | outline markup given =>
    cases h
    exact Supplied.asked_bind_congr hresolved fun request request' hsame => by
      rw [outlineOf_congr hsame]
  | outlineTree tree given =>
    cases h
    refine congrArg (loadTree tree >>= ·) (funext fun d => ?_)
    exact Supplied.asked_bind_congr hresolved fun request request' hsame => by
      rw [outlineOf_congr hsame]
  | format markup formatter given =>
    cases h
    exact Supplied.asked_bind_congr hresolved fun request request' hsame => by
      rw [format_congr hsame]
  | outlineIfMarkup v given =>
    cases h
    exact Supplied.asked_bind_congr hresolved fun request request' hsame => by
      rw [outlineIfMarkup_congr hsame]
  | _ => contradiction

/-- An action that takes options as an argument only asks for something. -/
theorem perform_of_argument {action : Action} {supplied : Supplied}
    (h : action.argument? = some supplied) (s : Scope) :
    action.perform s = (action.answer s.inForce, s) := by
  cases action with
  | resolve | render | outline | outlineTree | format | outlineIfMarkup => rfl
  | _ => contradiction

/-- Rendering with the defaults is rendering with the defaults as the argument. -/
theorem answer_renderDefault (tree : Json) (o o' : Options) :
    (renderDefault tree).answer o = (render tree (.ofOptions Options.default)).answer o' := by
  rw [answer, answer, Supplied.asked_ofOptions]
  rfl

/-- Whether an action reads the options in force is decided by its argument. In every run, if
something is supplied, the outcome is the same in every scope, and if nothing is supplied, it is the
one for the options in force at that point as the argument. Rendering with the defaults never reads
the options in force. None of these actions changes the scope, whether it fails or not. -/
theorem outcome_of_argument (s : Scope) (before after : List Action) :
    let here := (performAll s before).2
    (∀ (action : Action) (supplied : Supplied), action.argument? = some supplied →
      ∃ outcome : Except Fault Outcome,
        (performAll s (before ++ action :: after)).1[before.length]? =
            some (outcome, here.inForce) ∧
          (perform here action).2 = here ∧
          (supplied.isNothing = false → ∀ t : Scope, (perform t action).1 = outcome) ∧
          (supplied.isNothing = true → ∀ t : Scope,
            (perform t (action.withArgument (.ofOptions here.inForce))).1 = outcome)) ∧
    ∀ tree : Json, ∃ outcome : Except Fault Outcome,
      (performAll s (before ++ renderDefault tree :: after)).1[before.length]? =
          some (outcome, here.inForce) ∧
        (perform here (renderDefault tree)).2 = here ∧
        ∀ t : Scope, (perform t (renderDefault tree)).1 = outcome ∧
          (perform t (render tree (.ofOptions Options.default))).1 = outcome := by
  intro here
  refine ⟨fun action supplied hargument => ?_, fun tree => ?_⟩
  · have hperform := perform_of_argument hargument
    refine ⟨action.answer here.inForce, ?_, by rw [hperform], fun hgiven t => ?_, fun hnone t => ?_⟩
    · rw [getElem?_performAll, hperform]
    · have hsame := answer_congr hargument
        (supplied.resolved_of_not_isNothing hgiven here.inForce t.inForce)
      rw [hperform, hsame, withArgument_self hargument]
    · have hresolved : supplied.resolved here.inForce =
          (Supplied.ofOptions here.inForce).resolved t.inForce := by
        rw [Supplied.resolved_of_isNothing hnone, Supplied.resolved_ofOptions]
      rw [perform_of_argument (argument?_withArgument hargument _), answer_congr hargument hresolved]
  · refine ⟨(renderDefault tree).answer here.inForce, ?_, rfl, fun t => ⟨?_, ?_⟩⟩
    · rw [getElem?_performAll]
      rfl
    · exact (answer_renderDefault tree t.inForce {}).trans
        (answer_renderDefault tree here.inForce {}).symm
    · exact (answer_renderDefault tree here.inForce t.inForce).symm

/-- Where text is not escaped, entries that leave this setting out resolve to the default of it,
and nothing supplied resolves to what is in force. What is no tree cannot be rendered, and text
still is not escaped afterwards. -/
theorem outcome_of_argument_partial :
    let plain : Supplied := .named [("escape_inner_text", .scalar (.bool false))]
    let three : Supplied := .entries [("attributesPerLine", .scalar (.int 3))]
    let s : Scope := {}
    (performAll s [set plain, resolve three]).1[1]? =
        some (.ok (.options { attributesPerLine := 3 }), { escapeInnerText := false }) ∧
      (performAll s [set plain, resolve .absent, reset]).1[1]? =
        some ((perform {} (resolve (.ofOptions { escapeInnerText := false }))).1,
          { escapeInnerText := false }) ∧
      (performAll s [set plain, renderDefault .null]).1[1]? =
        some ((perform {} (render .null (.ofOptions Options.default))).1,
          { escapeInnerText := false }) := by
  intro plain three s
  have hhere : (performAll s [set plain]).2.inForce = { escapeInnerText := false } := rfl
  obtain ⟨hargument, hdefault⟩ := outcome_of_argument s [set plain] []
  obtain ⟨outcome, hrow, -, hsame, -⟩ := hargument (resolve three) three rfl
  have hthree : outcome = .ok (.options { attributesPerLine := 3 }) := (hsame rfl {}).symm
  obtain ⟨outcome', hrow', -, -, hcurrent⟩ :=
    (outcome_of_argument s [set plain] [reset]).1 (resolve .absent) .absent rfl
  have hfalse := hcurrent rfl {}
  obtain ⟨outcome'', hrow'', -, hrendered⟩ := hdefault .null
  rw [hhere] at hrow hrow' hrow'' hfalse
  rw [hthree] at hrow
  rw [← hfalse] at hrow'
  rw [← (hrendered {}).2] at hrow''
  exact ⟨hrow, hrow', hrow''⟩

end Action

end MarkupOutline
