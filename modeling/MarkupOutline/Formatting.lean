import MarkupOutline.Draft.Outline
import MarkupOutline.Draft.Stored
import MarkupOutline.Markup
import MarkupOutline.Options.Supplied

/-!
# Formatting

The formatter reads markup, resolves the options asked for, and renders the outline, in this order;
so nothing is reported about options if the markup cannot be read. `format` chooses between this
formatter, one that the caller brings along, and none.
-/

namespace MarkupOutline

/-- Why a request has no result. -/
inductive Fault where
  /-- Options were supplied under a name that is no setting. -/
  | unknownOption (name : String)
  /-- A stored tree could not be read. -/
  | stored (fault : StoredFault)
  /-- A value that is not markup was to be parsed. -/
  | notMarkup
  /-- Parsed markup could not be turned into nodes. -/
  | conversion (fault : ConversionFault)
  /-- A tree could not be rendered. -/
  | render (fault : RenderFault)
  /-- The caller's own formatter failed, with a kind of failure it names. -/
  | custom (kind : String)
  deriving DecidableEq, Repr

/-- The message of a fault, none for those that have no wording of their own. -/
def Fault.message? : Fault → Option String
  | stored fault => fault.message?
  | render fault => fault.message?
  | _ => none

/-! ## Markup -/

/-- The fragment that a value stands for where markup is expected. Whatever counts as false is the
empty fragment, and of the other values only texts are markup. -/
def Value.toFragment (v : Value) : Except Fault Fragment :=
  if v.isTruthy then
    match v.text? with
    | some markup => (Fragment.ofMarkup markup).mapError .conversion
    | none => .error .notMarkup
  else .ok {}

/-- Whether a value is a text that begins like markup. -/
def Value.isMarkup (v : Value) : Bool :=
  match v.text? with
  | some s => (Text.trimStart s.toList).head? == some '<'
  | none => false

/-- What the formatter is given. -/
inductive Source where
  | value (v : Value)
  | draft (d : Draft)
  deriving Repr

/-- The text that the formatter is given, none if it is given something else. -/
def Source.text? : Source → Option String
  | value v => v.text?
  | draft _ => none

/-- Things that can be handed in to be formatted, and among which the results are. -/
class Formattable (α : Type) where
  /-- What the formatter is given for a thing. -/
  source : α → Source
  /-- A text that was written, as one of the things. -/
  ofText : String → α

instance : Formattable Value := ⟨.value, .str⟩

instance : Formattable Source := ⟨id, fun s => .value (.str s)⟩

/-! ## The formatter -/

/-- The result of a request together with what was reported. -/
abbrev Reported (α : Type) := Except Fault α × List Notice

/-- The rendering of a draft under the options asked for. -/
def renderDraft (inForce : Options) (request : Request) (d : Draft) : Reported String :=
  let (o, notices) := request.resolve inForce
  ((d.render o).mapError .render, notices)

/-- The outline of markup or of a fragment. A draft that is no fragment is not markup. -/
def outlineOf (inForce : Options) (request : Request) (source : Source) : Reported String :=
  match source with
  | .draft (.fragment children) => renderDraft inForce request (.fragment children)
  | .draft _ => (.error .notMarkup, [])
  | .value v =>
    match v.toFragment with
    | .error fault => (.error fault, [])
    | .ok f =>
      let (o, notices) := request.resolve inForce
      (.ok (f.render o), notices)

/-- The outlines of markup formatted a number of times over, the first of the markup itself. -/
def outlineRepeatedly (inForce : Options) (request : Request) :
    Nat → Value → Except Fault (List String)
  | 0, _ => .ok []
  | times + 1, markup => do
    let first ← (outlineOf inForce request (.value markup)).1
    let more ← outlineRepeatedly inForce request times (.str first)
    pure (first :: more)

/-- The outline of a value that looks like markup, and any other value unchanged. -/
def outlineIfMarkup (inForce : Options) (request : Request) (v : Value) : Reported Value :=
  if v.isMarkup then
    let (result, notices) := outlineOf inForce request (.value v)
    (result.map Value.str, notices)
  else (.ok v, [])

/-! ## Choosing a formatter -/

/-- The name under which the formatter is chosen. -/
def outlineFormatter : String := "diffable"

/-- A choice of formatter for things of a type, which are values unless trees that were built by
hand are among them. -/
inductive Formatter (α : Type := Value) where
  /-- The caller's own. -/
  | custom (apply : α → Except Fault α)
  /-- Whatever a value names. -/
  | chosen (v : Value)

/-- What is reported when the caller's own formatter gives no text. -/
def contractViolation : String := "Your custom markup formatter must return a string."

/-- The report that the caller's own formatter gave no text. -/
def violatedContract : Notice := ⟨.warning, channelName "formatter", contractViolation⟩

/-- A thing formatted by the formatter chosen. The caller's own has to give a text; if it does not,
that is reported, and the thing stays as it is. It also stays as it is if the choice names no
formatter. -/
def format {α : Type} [Formattable α] (inForce : Options) (request : Request)
    (formatter : Formatter α) (x : α) : Reported α :=
  match formatter with
  | .custom apply =>
    match apply x with
    | .error fault => (.error fault, [])
    | .ok result =>
      if (Formattable.source result).text?.isSome then (.ok result, [])
      else (.ok x, [violatedContract])
  | .chosen choice =>
    if choice.text? = some outlineFormatter then
      let (result, notices) := outlineOf inForce request (Formattable.source x)
      (result.map Formattable.ofText, notices)
    else (.ok x, [])

end MarkupOutline
