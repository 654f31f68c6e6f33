import MarkupOutline.Html.Reference.Names

/-!
# Character references

A character reference is an ampersand followed by a number or a name. Numbers that HTML gives
another meaning are replaced, and of a name the longest known beginning counts. Whatever is no
reference stands for itself.
-/

namespace MarkupOutline.Html.Reference

/-- The character that takes the place of one that must not occur. -/
def replacement : Char := '\uFFFD'

/-- The code points that the numbers from 0x80 to 0x9F stand for, in order. Five of them keep their
number. -/
def c1Remapping : List Nat :=
  [0x20AC, 0x81, 0x201A, 0x0192, 0x201E, 0x2026, 0x2020, 0x2021, 0x02C6, 0x2030, 0x0160, 0x2039,
   0x0152, 0x8D, 0x017D, 0x8F, 0x90, 0x2018, 0x2019, 0x201C, 0x201D, 0x2022, 0x2013, 0x2014,
   0x02DC, 0x2122, 0x0161, 0x203A, 0x0153, 0x9D, 0x017E, 0x0178]

/-- The character that a number stands for. Zero, surrogates and numbers beyond Unicode stand for
the replacement character. -/
def numbered (n : Nat) : Char :=
  if n = 0 || 0x10FFFF < n || (0xD800 ≤ n && n ≤ 0xDFFF) then replacement
  else if 0x80 ≤ n && n ≤ 0x9F then Char.ofNat (c1Remapping.getD (n - 0x80) n)
  else Char.ofNat n

/-- The value of a digit in any base up to sixteen. -/
def digitValue (c : Char) : Nat :=
  if c.isDigit then c.toNat - '0'.toNat else c.toLower.toNat - 'a'.toNat + 10

/-- Whether a character is a hexadecimal digit. -/
def isHexDigit (c : Char) : Bool :=
  c.isDigit || ('a' ≤ c && c ≤ 'f') || ('A' ≤ c && c ≤ 'F')

/-- A reference that has been recognised: its characters, and how many characters of the text
behind the ampersand it takes up. -/
abbrev Match := List Char × Nat

/-- A number in a base, with the semicolon behind it if there is one. `skipped` characters have
been passed over before the digits. -/
def numeric? (base : Nat) (isDigit : Char → Bool) (skipped : Nat) (s : List Char) : Option Match :=
  let digits := s.takeWhile isDigit
  if digits.isEmpty then none
  else
    let n := digits.foldl (fun n c => base * n + digitValue c) 0
    let semicolon := if (s.drop digits.length).head? = some ';' then 1 else 0
    some ([numbered n], skipped + digits.length + semicolon)

/-- The characters that a name stands for. -/
def named? (name : List Char) : Option (List Char) :=
  match name with
  | [] => none
  | first :: _ =>
    ((namesUnder first).find? fun (known, _) => known.toList = name).map fun (_, points) =>
      points.map Char.ofNat

/-- The longest name at the start of a word that needs no semicolon. -/
def longestBare? (word : List Char) : Option (List Char) :=
  bareNames.foldl
    (fun best name =>
      let name := name.toList
      if name.isPrefixOf word && (best.elim 0 List.length) < name.length then some name else best)
    none

/-- A name at the start of a text. In an attribute value a name without a semicolon is none if an
equals sign, a letter or a digit follows. -/
def name? (inAttribute : Bool) (s : List Char) : Option Match :=
  let word := s.takeWhile Char.isAlphanum
  let terminated := (s.drop word.length).head? = some ';'
  match if terminated then named? word else none with
  | some characters => some (characters, word.length + 1)
  | none =>
    match longestBare? word with
    | none => none
    | some name =>
      -- In an address such as a query, the ampersand usually begins the next parameter.
      let continued := match (s.drop name.length).head? with
        | some c => c = '=' || c.isAlphanum
        | none => false
      if inAttribute && continued then none
      else (named? name).map (·, name.length)

/-- The reference that an ampersand in front of a text begins. -/
def reference? (inAttribute : Bool) (s : List Char) : Option Match :=
  match s with
  | '#' :: 'x' :: digits => numeric? 16 isHexDigit 2 digits
  | '#' :: 'X' :: digits => numeric? 16 isHexDigit 2 digits
  | '#' :: digits => numeric? 10 Char.isDigit 1 digits
  | _ => name? inAttribute s

/-- A text with its references replaced, after the first characters, which belong to a reference
already replaced, have been passed over. -/
def decodeAfter (inAttribute : Bool) : Nat → List Char → List Char
  | _, [] => []
  | passed + 1, _ :: rest => decodeAfter inAttribute passed rest
  | 0, c :: rest =>
    if c = '&' then
      match reference? inAttribute rest with
      | some (characters, taken) => characters ++ decodeAfter inAttribute taken rest
      | none => c :: decodeAfter inAttribute 0 rest
    else c :: decodeAfter inAttribute 0 rest

/-- A text with its references replaced. -/
def decode (inAttribute : Bool) (s : List Char) : List Char := decodeAfter inAttribute 0 s

end MarkupOutline.Html.Reference
