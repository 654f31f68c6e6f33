import MarkupOutline.Json.Basic

/-!
# Reading JSON

Strict JSON, with the three names of decimals without a finite value. Of a key that an object
repeats the last value counts. An escaped surrogate pair stands for one character; a surrogate on
its own stands for no character and is read as U+FFFD.

Values nest, so the readers of values, items and entries call each other. Each call is given a
bound on the number of further calls; every call reads at least one character, so the length of the
text is always enough.
-/

namespace MarkupOutline.Json

/-- The characters that may stand between tokens. -/
def isSpace (c : Char) : Bool := c = ' ' || c = '\t' || c = '\n' || c = '\r'

/-- The text without the space at its start. -/
def skipSpace (s : List Char) : List Char := s.dropWhile isSpace

/-- What follows an expected beginning. -/
def expect? : List Char → List Char → Option (List Char)
  | [], s => some s
  | c :: word, d :: s => if c = d then expect? word s else none
  | _ :: _, [] => none

/-- The value of a hexadecimal digit. -/
def hexDigit? (c : Char) : Option Nat :=
  if '0' ≤ c && c ≤ '9' then some (c.toNat - '0'.toNat)
  else if 'a' ≤ c && c ≤ 'f' then some (c.toNat - 'a'.toNat + 10)
  else if 'A' ≤ c && c ≤ 'F' then some (c.toNat - 'A'.toNat + 10)
  else none

/-! ## Strings -/

/-- The character that a one-letter escape stands for. -/
def shortEscape? : Char → Option Nat
  | '"' => some 0x22
  | '\\' => some 0x5C
  | '/' => some 0x2F
  | 'b' => some 0x08
  | 'f' => some 0x0C
  | 'n' => some 0x0A
  | 'r' => some 0x0D
  | 't' => some 0x09
  | _ => none

/-- The code points and escaped code units up to the closing quote, and what follows it. -/
def readUnits : List Char → Option (List Nat × List Char)
  | [] => none
  | '"' :: rest => some ([], rest)
  | '\\' :: 'u' :: a :: b :: c :: d :: rest =>
    match hexDigit? a, hexDigit? b, hexDigit? c, hexDigit? d with
    | some a, some b, some c, some d =>
      (readUnits rest).map fun (units, rest) =>
        ((((a * 16 + b) * 16 + c) * 16 + d) :: units, rest)
    | _, _, _, _ => none
  | '\\' :: c :: rest =>
    match shortEscape? c with
    | some n => (readUnits rest).map fun (units, rest) => (n :: units, rest)
    | none => none
  | c :: rest =>
    if c.toNat < 0x20 then none
    else (readUnits rest).map fun (units, rest) => (c.toNat :: units, rest)

/-- Whether a code unit is the first of a surrogate pair. -/
def isHighSurrogate (n : Nat) : Bool := 0xD800 ≤ n && n < 0xDC00

/-- Whether a code unit is the second of a surrogate pair. -/
def isLowSurrogate (n : Nat) : Bool := 0xDC00 ≤ n && n < 0xE000

/-- The character with a number, U+FFFD if there is none. -/
def charOfUnit (n : Nat) : Char :=
  if isHighSurrogate n || isLowSurrogate n then '\uFFFD' else Char.ofNat n

/-- The text that code points and code units stand for, with surrogate pairs joined. -/
def joinUnits : List Nat → List Char
  | [] => []
  | [n] => [charOfUnit n]
  | high :: low :: rest =>
    if isHighSurrogate high && isLowSurrogate low then
      Char.ofNat (0x10000 + (high - 0xD800) * 0x400 + (low - 0xDC00)) :: joinUnits rest
    else charOfUnit high :: joinUnits (low :: rest)

/-- A string whose opening quote has been read. -/
def readString (s : List Char) : Option (String × List Char) :=
  (readUnits s).map fun (units, rest) => (String.ofList (joinUnits units), rest)

/-! ## Numbers -/

/-- The digits at the start of a text, and the rest. -/
def spanDigits (s : List Char) : List Char × List Char := s.span Char.isDigit

/-- The fraction digits at the start of a text; none if there is no point with a digit behind
it. -/
def readFraction (s : List Char) : Option (List Char) × List Char :=
  match s with
  | '.' :: rest =>
    match spanDigits rest with
    | ([], _) => (none, s)
    | (digits, rest) => (some digits, rest)
  | _ => (none, s)

/-- The number that digits stand for. -/
def ofDigits (digits : List Char) : Nat :=
  digits.foldl (fun n c => 10 * n + (c.toNat - '0'.toNat)) 0

/-- The power of ten at the start of a text. -/
def readExponent (s : List Char) : Option Int × List Char :=
  match s with
  | e :: rest =>
    if e = 'e' || e = 'E' then
      let (negative, unsigned) :=
        match rest with
        | '-' :: r => (true, r)
        | '+' :: r => (false, r)
        | r => (false, r)
      match spanDigits unsigned with
      | ([], _) => (none, s)
      | (digits, rest) =>
        let n : Int := ofDigits digits
        (some (if negative then -n else n), rest)
    else (none, s)
  | [] => (none, s)

/-- A number whose sign has been read. A number without fraction and exponent is an integer. -/
def readNumber (negative : Bool) (s : List Char) : Option (Scalar × List Char) :=
  let whole :=
    match s with
    | '0' :: rest => some (['0'], rest)
    | _ =>
      match spanDigits s with
      | ([], _) => none
      | found => some found
  whole.map fun (digits, rest) =>
    let (fraction, rest) := readFraction rest
    let (exponent, rest) := readExponent rest
    match fraction, exponent with
    | none, none =>
      let n : Int := ofDigits digits
      (.int (if negative then -n else n), rest)
    | _, _ =>
      let fraction := fraction.getD []
      (.decimal (.ofDigits negative (digits ++ fraction) (exponent.getD 0 - fraction.length)), rest)

/-- A literal name or a number. -/
def readScalar (s : List Char) : Option (Scalar × List Char) :=
  match s with
  | 'n' :: rest => (expect? "ull".toList rest).map (.null, ·)
  | 't' :: rest => (expect? "rue".toList rest).map (.bool true, ·)
  | 'f' :: rest => (expect? "alse".toList rest).map (.bool false, ·)
  | 'N' :: rest => (expect? "aN".toList rest).map (.decimal .undefined, ·)
  | 'I' :: rest => (expect? "nfinity".toList rest).map (.decimal (.infinite false), ·)
  | '-' :: 'I' :: rest => (expect? "nfinity".toList rest).map (.decimal (.infinite true), ·)
  | '-' :: rest => readNumber true rest
  | _ => readNumber false s

/-! ## Values -/

mutual

/-- A value, and what follows it. -/
def readValue : Nat → List Char → Option (Json × List Char)
  | 0, _ => none
  | bound + 1, s =>
    match s with
    | '"' :: rest => (readString rest).map fun (text, rest) => (str text, rest)
    | '[' :: rest =>
      match skipSpace rest with
      | ']' :: rest => some (array [], rest)
      | rest => (readItems bound rest).map fun (items, rest) => (array items, rest)
    | '\x7b' :: rest =>
      match skipSpace rest with
      | '\x7d' :: rest => some (object [], rest)
      | rest => (readEntries bound rest).map fun (es, rest) => (object (Entries.ofList es), rest)
    | _ => (readScalar s).map fun (value, rest) => (scalar value, rest)

/-- The items of an array, at least one, up to the closing bracket. -/
def readItems : Nat → List Char → Option (List Json × List Char)
  | 0, _ => none
  | bound + 1, s =>
    match readValue bound s with
    | none => none
    | some (item, rest) =>
      match skipSpace rest with
      | ',' :: rest =>
        (readItems bound (skipSpace rest)).map fun (items, rest) => (item :: items, rest)
      | ']' :: rest => some ([item], rest)
      | _ => none

/-- The entries of an object, at least one, up to the closing brace. -/
def readEntries : Nat → List Char → Option (List (String × Json) × List Char)
  | 0, _ => none
  | bound + 1, s =>
    match s with
    | '"' :: rest =>
      match readString rest with
      | none => none
      | some (key, rest) =>
        match skipSpace rest with
        | ':' :: rest =>
          match readValue bound (skipSpace rest) with
          | none => none
          | some (value, rest) =>
            match skipSpace rest with
            | ',' :: rest =>
              (readEntries bound (skipSpace rest)).map fun (es, rest) => ((key, value) :: es, rest)
            | '\x7d' :: rest => some ([(key, value)], rest)
            | _ => none
        | _ => none
    | _ => none

end

/-- The value that a whole text is, none if it is not JSON. -/
def read? (text : String) : Option Json :=
  let s := text.toList
  match readValue (2 * s.length + 1) (skipSpace s) with
  | some (value, rest) => if (skipSpace rest).isEmpty then some value else none
  | none => none

end MarkupOutline.Json
