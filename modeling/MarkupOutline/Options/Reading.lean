import MarkupOutline.Notice
import MarkupOutline.Options.Basic

/-!
# Reading options from values

Options come in as arbitrary values. Reading them never fails: each setting is read on its own, a
value that does not fit is replaced by the default of its setting, and every replacement or unknown
key is reported in a notice. Where several entries select one setting, the last one counts, and
only that one is checked.
-/

namespace MarkupOutline

/-- The channel on which the reading of options is reported. -/
def optionsChannel : String := channelName "config"

namespace Value

/-- The flag that a value is. Only the two truth values are flags. -/
def flag? : Value → Option Bool
  | scalar (.bool b) => some b
  | _ => none

/-- The count that a value is: an integer that is not negative. A truth value is no count. -/
def count? : Value → Option Nat
  | scalar (.int n) => if 0 ≤ n then some n.toNat else none
  | _ => none

/-- The termination style that a value selects. -/
def voidStyle? : Value → Option VoidStyle
  | style s => some s
  | scalar (.str word) => VoidStyle.ofWord? word
  | _ => none

/-- The choice of tags that a value makes: a truth value, or a collection of texts. -/
def preservedTags? : Value → Option PreservedTags
  | scalar (.bool b) => some (.uniform b)
  | list items | tuple items | set items | frozenSet items => (items.mapM text?).map .only
  | _ => none

end Value

/-- The report that a value does not fit its setting. -/
def invalidSetting (s : Setting) (v : Value) : Notice :=
  ⟨.debug, optionsChannel, "Invalid value " ++ v.literal ++ " for formatting option " ++
    Text.quoted s.name ++ ", using default"⟩

/-- The report that a key selects no setting. -/
def unknownSetting (key : String) : Notice :=
  ⟨.debug, optionsChannel, "Ignoring unknown formatting option " ++ Text.quoted key⟩

/-- The report that a value cannot be taken for options at all. -/
def ignoredOptions (v : Value) : Notice :=
  ⟨.debug, optionsChannel, "Ignoring formatting configuration of type " ++ v.typeName⟩

/-- The values given for the settings, none for a setting that was left out. -/
abbrev Assignment := Setting → Option Value

namespace Assignment

/-- Nothing given. -/
def empty : Assignment := fun _ => none

/-- A value given for one setting, in place of any earlier one. -/
def assign (a : Assignment) (s : Setting) (v : Value) : Assignment :=
  fun t => if t = s then some v else a t

/-- The values that keyed entries give, taken in order. Keys that select no setting give none. -/
def ofEntries (select : String → Option Setting) (entries : List (String × Value)) : Assignment :=
  entries.foldl
    (fun a (key, value) =>
      match select key with
      | some s => a.assign s value
      | none => a)
    empty

/-- What becomes of one setting: its default if nothing was given, and with a notice if what was
given does not fit. -/
def read {α : Type} (a : Assignment) (s : Setting) (fits? : Value → Option α) (fallback : α) :
    α × List Notice :=
  match a s with
  | none => (fallback, [])
  | some v =>
    match fits? v with
    | some x => (x, [])
    | none => (fallback, [invalidSetting s v])

end Assignment

namespace Options

/-- Options from the values given for the settings, with the notices in the order of the
settings. -/
def ofAssignment (a : Assignment) : Options × List Notice :=
  let o := Options.default
  let emptyAttributes := a.read .emptyAttributes Value.flag? o.emptyAttributes
  let voidElements := a.read .voidElements Value.voidStyle? o.voidElements
  let selfClosingTag := a.read .selfClosingTag Value.flag? o.selfClosingTag
  let attributesPerLine := a.read .attributesPerLine Value.count? o.attributesPerLine
  let escapeInnerText := a.read .escapeInnerText Value.flag? o.escapeInnerText
  let preservedTags :=
    a.read .tagsWithWhitespacePreserved Value.preservedTags? o.tagsWithWhitespacePreserved
  (⟨emptyAttributes.1, voidElements.1, selfClosingTag.1, attributesPerLine.1, escapeInnerText.1,
      preservedTags.1⟩,
    emptyAttributes.2 ++ voidElements.2 ++ selfClosingTag.2 ++ attributesPerLine.2 ++
      escapeInnerText.2 ++ preservedTags.2)

/-- Options from keyed entries. Keys may be written in either spelling; the notices about unknown
keys come before those about values. -/
def ofEntries (entries : List (String × Value)) : Options × List Notice :=
  let unknown := entries.filterMap fun (key, _) =>
    match Setting.ofKey? key with
    | some _ => none
    | none => some (unknownSetting key)
  -- Entries that a later one overrides are not checked.
  let (o, invalid) := ofAssignment (Assignment.ofEntries Setting.ofKey? entries)
  (o, unknown ++ invalid)

/-- Options from values given by name. Here a name that is no setting's name is an error, and the
alternative spelling is not accepted: the first offending name is returned. -/
def ofNamed (named : List (String × Value)) : Except String (Options × List Notice) :=
  match named.find? fun (name, _) => (Setting.ofName? name).isNone with
  | some (name, _) => .error name
  | none => .ok (ofAssignment (Assignment.ofEntries Setting.ofName? named))

/-- The values of the settings, as they would be given. -/
def toAssignment (o : Options) : Assignment
  | .emptyAttributes => some (.scalar (.bool o.emptyAttributes))
  | .voidElements => some (.style o.voidElements)
  | .selfClosingTag => some (.scalar (.bool o.selfClosingTag))
  | .attributesPerLine => some (.scalar (.int o.attributesPerLine))
  | .escapeInnerText => some (.scalar (.bool o.escapeInnerText))
  | .tagsWithWhitespacePreserved =>
    match o.tagsWithWhitespacePreserved with
    | .uniform b => some (.scalar (.bool b))
    | .only tags => some (.tuple (tags.map Value.str))

end Options

/-- What a caller asks for: the options in force, options already read, or something to read them
from. -/
inductive Request where
  /-- The options in force where the request is made. -/
  | current
  | options (o : Options)
  | entries (entries : List (String × Value))
  /-- A value that options cannot be read from. -/
  | other (v : Value)
  deriving Repr

namespace Request

/-- What a caller asks for by handing in a value. -/
def ofValue : Value → Request
  | .scalar .null => current
  | .mapping es => entries es
  | v => other v

/-- The options asked for, where `inForce` are the options in force. -/
def resolve (inForce : Options) : Request → Options × List Notice
  | current => (inForce, [])
  | options o => (o, [])
  | entries es => Options.ofEntries es
  | other v => (Options.default, [ignoredOptions v])

end Request

end MarkupOutline
