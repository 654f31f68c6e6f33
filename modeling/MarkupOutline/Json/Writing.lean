import MarkupOutline.Json.Basic
import MarkupOutline.Text.Quoted

/-!
# Writing JSON

JSON text in printable ASCII. All other characters are written as the escapes of their UTF-16 code
units, apart from the few that have a short escape. Without an indent a value takes one line; with
one, every item takes a line of its own, indented by that many spaces for each level.
-/

namespace MarkupOutline.Json

/-- The UTF-16 code units of a character: one, or a surrogate pair above U+FFFF. -/
def codeUnits (c : Char) : List Nat :=
  let n := c.toNat
  if n < 0x10000 then [n]
  else [0xD800 + (n - 0x10000) / 0x400, 0xDC00 + (n - 0x10000) % 0x400]

/-- A code unit as an escape of four digits. -/
def unitEscape (unit : Nat) : List Char := '\\' :: 'u' :: Text.hexPadded 4 unit

/-- One character of a string. -/
def writeChar (c : Char) : List Char :=
  if c = '"' then ['\\', '"']
  else if c = '\\' then ['\\', '\\']
  else if c = '\n' then ['\\', 'n']
  else if c = '\r' then ['\\', 'r']
  else if c = '\t' then ['\\', 't']
  else if c.toNat = 0x08 then ['\\', 'b']
  else if c.toNat = 0x0C then ['\\', 'f']
  else if 0x20 ≤ c.toNat && c.toNat < 0x7F then [c]
  else (codeUnits c).flatMap unitEscape

/-- A string between its quotes. -/
def writeString (s : String) : List Char := '"' :: s.toList.flatMap writeChar ++ ['"']

/-- A number or a literal. Decimals without a finite value have names of their own. -/
def writeScalar : Scalar → List Char
  | .null => "null".toList
  | .bool true => "true".toList
  | .bool false => "false".toList
  | .int n => (toString n).toList
  | .decimal (.infinite false) => "Infinity".toList
  | .decimal (.infinite true) => "-Infinity".toList
  | .decimal .undefined => "NaN".toList
  | .decimal d => d.text.toList
  | .str s => writeString s

/-- The start of an item: a new line at its level if there is an indent, else nothing. -/
def itemBreak (indent : Option Nat) (level : Nat) : List Char :=
  match indent with
  | none => []
  | some width => '\n' :: List.replicate (width * level) ' '

/-- What stands between two items. -/
def separator (indent : Option Nat) (level : Nat) : List Char :=
  match indent with
  | none => [',', ' ']
  | some _ => ',' :: itemBreak indent level

mutual

/-- The text of a value whose first line is at a level. -/
def writeAt (indent : Option Nat) (level : Nat) : Json → List Char
  | scalar s => writeScalar s
  | array [] => ['[', ']']
  | array (item :: more) =>
    '[' :: itemBreak indent (level + 1) ++ writeAt indent (level + 1) item ++
      writeItems indent (level + 1) more ++ itemBreak indent level ++ [']']
  | object [] => ['\x7b', '\x7d']
  | object ((key, value) :: more) =>
    '\x7b' :: itemBreak indent (level + 1) ++ writeString key ++ [':', ' '] ++
      writeAt indent (level + 1) value ++ writeEntries indent (level + 1) more ++
      itemBreak indent level ++ ['\x7d']

/-- The items of an array after the first. -/
def writeItems (indent : Option Nat) (level : Nat) : List Json → List Char
  | [] => []
  | item :: more =>
    separator indent level ++ writeAt indent level item ++ writeItems indent level more

/-- The entries of an object after the first. -/
def writeEntries (indent : Option Nat) (level : Nat) : List (String × Json) → List Char
  | [] => []
  | (key, value) :: more =>
    separator indent level ++ writeString key ++ [':', ' '] ++ writeAt indent level value ++
      writeEntries indent level more

end

/-- The text of a value. A negative indent counts as 0. -/
def write (indent : Option Int) (j : Json) : String :=
  String.ofList (writeAt (indent.map Int.toNat) 0 j)

end MarkupOutline.Json
