import MarkupOutline.Entries
import MarkupOutline.Options.Reading

/-!
# Supplied options

The ways in which callers supply options, and what each of them amounts to: as an argument, where
leaving options out asks for those in force, and as new options to be put in force, where it asks
for the defaults.
-/

namespace MarkupOutline

/-- Options as a caller supplies them. -/
inductive Supplied where
  /-- None. -/
  | absent
  /-- Keyed entries. A key given twice keeps its first place and its last value. -/
  | entries (entries : List (String × Value))
  /-- Values by the names of the settings. -/
  | named (values : List (String × Value))
  /-- Some value. -/
  | value (v : Value)
  deriving Repr

namespace Supplied

/-- The options that values by name amount to. -/
def ofNamed (values : List (String × Value)) : Except String (Options × List Notice) :=
  Options.ofNamed (Entries.ofList values)

/-- The request made by supplying options as an argument, with the notices that come up before it
is looked at. The error is a name that is no setting. -/
def request : Supplied → Except String (Request × List Notice)
  | absent => .ok (.current, [])
  | entries es => .ok (.entries (Entries.ofList es), [])
  | named values => (ofNamed values).map fun (o, notices) => (.options o, notices)
  | value v => .ok (.ofValue v, [])

/-- The options put in force by supplying them. -/
def options : Supplied → Except String (Options × List Notice)
  | absent => .ok (Options.default, [])
  | entries es => .ok (Options.ofEntries (Entries.ofList es))
  | named values => ofNamed values
  | value v => .ok ((Request.ofValue v).resolve Options.default)

end Supplied

end MarkupOutline
