import MarkupOutline.Text.Quoted
import MarkupOutline.Value.Decimal

/-!
# Scalar values

The values without parts that can stand where a text was expected: in a field of a hand-built tree,
in an option, in stored JSON. A scalar has a type name, a plain display (a text shows as itself), a
literal form (a text is quoted), and counts as true or false.
-/

namespace MarkupOutline

/-- A value without parts. -/
inductive Scalar where
  /-- The absent value. -/
  | null
  | bool (b : Bool)
  | int (n : Int)
  | decimal (d : Decimal)
  | str (s : String)
  deriving DecidableEq, Repr, Inhabited

namespace Scalar

/-- The name of the value's type, as messages give it. -/
def typeName : Scalar → String
  | null => "NoneType"
  | bool _ => "bool"
  | int _ => "int"
  | decimal _ => "float"
  | str _ => "str"

/-- Whether the value counts as true: everything except the absent value, `false`, the zeros and
the empty text. -/
def isTruthy : Scalar → Bool
  | null => false
  | bool b => b
  | int n => n != 0
  | decimal d => !d.isZero
  | str s => !s.isEmpty

/-- The value written as a literal. -/
def literal : Scalar → String
  | null => "None"
  | bool true => "True"
  | bool false => "False"
  | int n => toString n
  | decimal d => d.text
  | str s => Text.quoted s

/-- The value as running text: a text stands for itself, anything else is written as a literal. -/
def display : Scalar → String
  | str s => s
  | other => other.literal

/-- The finite number that a boolean, an integer or a decimal stands for. -/
def number? : Scalar → Option (Int × Int)
  | bool b => some (if b then 1 else 0, 0)
  | int n => some (n, 0)
  | decimal d => d.mantissa?
  | _ => none

/-- Equality of values: numbers are compared by what they stand for, whatever their type. -/
def same (a b : Scalar) : Bool :=
  match a.number?, b.number? with
  | some (m, e), some (m', e') => Decimal.sameFinite m e m' e'
  | _, _ => a == b

end Scalar

/-- The literal form of a sequence of literals between brackets, separated by commas. -/
def bracketed (opening closing : String) (parts : List String) : String :=
  opening ++ String.intercalate ", " parts ++ closing

/-- The literal form of a tuple: one item alone keeps a comma behind it. -/
def tupleLiteral : List String → String
  | [only] => "(" ++ only ++ ",)"
  | parts => bracketed "(" ")" parts

end MarkupOutline
