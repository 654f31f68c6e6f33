/-!
# Decimal numbers

Numbers written with a fraction or an exponent. A finite one is kept as its significant digits and
a power of ten, so it is never rounded. `Decimal.text` writes it positionally when the leading
digit stands for a power of ten from `10^-4` to `10^15`, and in scientific notation otherwise.
-/

namespace MarkupOutline

/-- A decimal number: `digits · 10^exponent` with a sign, or one of the values that a decimal
number format adds for overflow and for undefined results. -/
inductive Decimal where
  /-- The finite number `± digits · 10^exponent`. Zero has exponent 0. -/
  | finite (negative : Bool) (digits : Nat) (exponent : Int)
  /-- Above or below every finite number. -/
  | infinite (negative : Bool)
  /-- No number at all. -/
  | undefined
  deriving DecidableEq, Repr, Inhabited

namespace Decimal

/-- The number that a list of digit characters and a power of ten stand for, in normal form: the
digits end in no zero. -/
def ofDigits (negative : Bool) (digits : List Char) (exponent : Int) : Decimal :=
  let leading := digits.dropWhile (· = '0')
  let trailing := leading.reverse.takeWhile (· = '0')
  let kept := leading.take (leading.length - trailing.length)
  if kept.isEmpty then finite negative 0 0
  else
    finite negative (kept.foldl (fun n c => 10 * n + (c.toNat - '0'.toNat)) 0)
      (exponent + trailing.length)

/-- Whether the number is zero, of either sign. -/
def isZero : Decimal → Bool
  | finite _ digits _ => digits == 0
  | _ => false

/-- Digits with a point `place` digits from the left, filled up with zeros where needed. -/
def positional (digits : List Char) (place : Int) : List Char :=
  if place ≤ 0 then '0' :: '.' :: (List.replicate (-place).toNat '0' ++ digits)
  else
    let n := place.toNat
    if digits.length ≤ n then digits ++ (List.replicate (n - digits.length) '0' ++ ['.', '0'])
    else digits.take n ++ '.' :: digits.drop n

/-- Digits with a point after the first and the power of ten it stands for, which has a sign and at
least two digits. -/
def scientific (digits : List Char) (power : Int) : List Char :=
  let mantissa :=
    match digits with
    | [] => ['0']
    | [d] => [d]
    | d :: more => d :: '.' :: more
  let magnitude := Nat.toDigits 10 power.natAbs
  let magnitude := if magnitude.length < 2 then '0' :: magnitude else magnitude
  mantissa ++ 'e' :: (if power < 0 then '-' else '+') :: magnitude

/-- The written form of a number. -/
def text : Decimal → String
  | finite negative digits exponent =>
    let shown := Nat.toDigits 10 digits
    let place : Int := shown.length + exponent
    let unsigned :=
      if -4 < place && place ≤ 16 then positional shown place else scientific shown (place - 1)
    String.ofList (if negative then '-' :: unsigned else unsigned)
  | infinite negative => if negative then "-inf" else "inf"
  | undefined => "nan"

/-- Whether two finite numbers, each a signed mantissa and a power of ten, are equal. -/
def sameFinite (m : Int) (e : Int) (m' : Int) (e' : Int) : Bool :=
  let low := min e e'
  m * Int.pow 10 (e - low).toNat == m' * Int.pow 10 (e' - low).toNat

/-- Mantissa and power of ten of a finite number. -/
def mantissa? : Decimal → Option (Int × Int)
  | finite negative digits exponent =>
    some (if negative then -(digits : Int) else digits, exponent)
  | _ => none

end Decimal

end MarkupOutline
