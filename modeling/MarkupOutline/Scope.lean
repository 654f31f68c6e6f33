import MarkupOutline.Formatting

/-!
# Scopes of options

The options in force hold in a scope and can be changed in it, for good or between the two ends of
a bracket. Leaving a bracket puts back what was in force when it was entered, whatever happened in
between and in whatever order brackets are left. A thread begins a scope of its own with the
defaults, and a copy begins one with the options in force. What is put in force there is in force
there only; the brackets are shared, so one that was entered in a scope can be left in another, and
then puts its options in force in that other scope.

A run of actions gives one row for each action: its result, and the options in force after it.
-/

namespace MarkupOutline

/-- Something done in a scope. -/
inductive Action where
  /-- Nothing. -/
  | get
  /-- New options put in force. -/
  | set (supplied : Supplied)
  /-- The defaults put in force. -/
  | reset
  /-- A bracket entered, with new options in force. -/
  | enter (bracket : String) (supplied : Supplied)
  /-- A bracket left, possibly because of a failure, which then goes on outside of it. -/
  | leave (bracket : String) (failing : Bool)
  /-- Actions in a thread. -/
  | thread (actions : List Action)
  /-- Actions in a copy of the scope. -/
  | copy (actions : List Action)
  /-- A stored tree rendered with the defaults. -/
  | renderDefault (tree : Json)
  /-- Options supplied as an argument resolved. -/
  | resolve (supplied : Supplied)
  /-- A stored tree rendered. -/
  | render (tree : Json) (supplied : Supplied)
  /-- The outline of markup. -/
  | outline (markup : Value) (supplied : Supplied)
  /-- The outline of a stored tree. -/
  | outlineTree (tree : Json) (supplied : Supplied)
  /-- A value formatted by a formatter chosen. -/
  | format (markup : Value) (formatter : Formatter) (supplied : Supplied)
  /-- A value formatted if it looks like markup. -/
  | outlineIfMarkup (v : Value) (supplied : Supplied)
  deriving Inhabited

/-- What an action results in. -/
inductive Outcome where
  | nothing
  /-- The failure inside a bracket goes on outside of it. -/
  | propagated
  | options (o : Options)
  | value (v : Value)
  | rows (rows : List (Except Fault Outcome × Options))

/-- A row: the result of an action, and the options in force after it. -/
abbrev Row := Except Fault Outcome × Options

/-- A scope, inside of those it was begun in. -/
structure Scope where
  /-- The options in force. -/
  inForce : Options := Options.default
  /-- The options in force in the scopes around this one, the nearest first. -/
  around : List Options := []
  /-- What leaving a bracket puts in force, for the brackets that have been entered and not left. A
  name stands for the bracket that was entered under it last. -/
  brackets : String → Option Options := fun _ => none

namespace Scope

/-- The scope with other options in force. -/
def put (o : Options) (s : Scope) : Scope := { s with inForce := o }

/-- The scope inside a bracket. -/
def enter (bracket : String) (o : Options) (s : Scope) : Scope :=
  { s with
    inForce := o
    brackets := fun other => if other = bracket then some s.inForce else s.brackets other }

/-- The scope outside a bracket. Leaving one that is not entered changes nothing. -/
def leave (bracket : String) (s : Scope) : Scope :=
  match s.brackets bracket with
  | none => s
  | some before =>
    { s with
      inForce := before
      brackets := fun other => if other = bracket then none else s.brackets other }

/-- A scope begun in this one, with the given options in force. -/
def inner (o : Options) (s : Scope) : Scope :=
  { s with inForce := o, around := s.inForce :: s.around }

/-- The scope that this one was begun in. -/
def outer (s : Scope) : Scope :=
  match s.around with
  | [] => s
  | o :: further => { s with inForce := o, around := further }

end Scope

/-- The options put in force by supplying them. -/
def Supplied.settled (supplied : Supplied) : Except Fault Options :=
  match supplied.options with
  | .error name => .error (.unknownOption name)
  | .ok (o, _) => .ok o

/-- The request made by supplying options as an argument. -/
def Supplied.asked (supplied : Supplied) : Except Fault Request :=
  match supplied.request with
  | .error name => .error (.unknownOption name)
  | .ok (request, _) => .ok request

/-- The node that is stored as a JSON value, as part of a request. -/
def loadTree (tree : Json) : Except Fault Draft := (Draft.ofJson tree).mapError .stored

namespace Action

/-- What an action that only asks for something results in, where `o` is in force. -/
def answer (o : Options) : Action → Except Fault Outcome
  | renderDefault tree => do
    let d ← loadTree tree
    let text ← (renderDraft o (.options Options.default) d).1
    pure (.value (.str text))
  | resolve supplied => do
    let request ← supplied.asked
    pure (.options (request.resolve o).1)
  | render tree supplied => do
    let d ← loadTree tree
    let request ← supplied.asked
    let text ← (renderDraft o request d).1
    pure (.value (.str text))
  | outline markup supplied => do
    let request ← supplied.asked
    let text ← (outlineOf o request (.value markup)).1
    pure (.value (.str text))
  | outlineTree tree supplied => do
    let d ← loadTree tree
    let request ← supplied.asked
    let text ← (outlineOf o request (.draft d)).1
    pure (.value (.str text))
  | format markup formatter supplied => do
    let request ← supplied.asked
    let v ← (MarkupOutline.format o request formatter markup).1
    pure (.value v)
  | outlineIfMarkup v supplied => do
    let request ← supplied.asked
    let v ← (MarkupOutline.outlineIfMarkup o request v).1
    pure (.value v)
  | _ => pure .nothing

mutual

/-- The result of an action, and the scope after it. -/
def perform (s : Scope) : Action → Except Fault Outcome × Scope
  | set supplied =>
    match supplied.settled with
    | .error fault => (.error fault, s)
    | .ok o => (.ok .nothing, s.put o)
  | reset => (.ok .nothing, s.put Options.default)
  | enter bracket supplied =>
    match supplied.settled with
    | .error fault => (.error fault, s)
    | .ok o => (.ok .nothing, s.enter bracket o)
  | leave bracket failing => (.ok (if failing then .propagated else .nothing), s.leave bracket)
  | thread actions =>
    let (rows, final) := performAll (s.inner Options.default) actions
    (.ok (.rows rows), final.outer)
  | copy actions =>
    let (rows, final) := performAll (s.inner s.inForce) actions
    (.ok (.rows rows), final.outer)
  | asking => (asking.answer s.inForce, s)

/-- The rows of actions one after the other, and the scope after them. -/
def performAll (s : Scope) : List Action → List Row × Scope
  | [] => ([], s)
  | action :: more =>
    let (result, s) := perform s action
    let (rows, final) := performAll s more
    ((result, s.inForce) :: rows, final)

end

end Action

end MarkupOutline
