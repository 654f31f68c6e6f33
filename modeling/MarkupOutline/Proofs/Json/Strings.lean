import Mathlib.Tactic.SplitIfs
import MarkupOutline.Json.Reading
import MarkupOutline.Json.Writing

/-!
# Reading written strings

A character is written as itself, as a short escape, or as the escapes of its code units. The reader
finds the code units again (`readUnits_writeChar`), and joining them gives back the characters,
since no character has the number of a surrogate. Everything that is written is ASCII.
-/

namespace MarkupOutline.Json

open Text (hexPadded)

/-! ## Digits -/

/-- The digit that is written for a number below 16 is read as the number, and it is ASCII. -/
theorem hexDigit?_digitChar : ∀ d < 16,
    hexDigit? (Nat.digitChar d) = some d ∧ (Nat.digitChar d).toNat < 128 := by
  decide

/-- A code unit has four digits. -/
theorem hexPadded_four {n : Nat} (h : n < 0x10000) :
    hexPadded 4 n = [Nat.digitChar (n / 0x1000), Nat.digitChar (n / 0x100 % 16),
      Nat.digitChar (n / 0x10 % 16), Nat.digitChar (n % 16)] := by
  have hlong : ∀ m, 16 ≤ m →
      Nat.toDigits 16 m = Nat.toDigits 16 (m / 16) ++ [Nat.digitChar (m % 16)] :=
    fun m hm => Nat.toDigits_of_base_le (by decide) hm
  have hshort : ∀ m < 16, Nat.toDigits 16 m = [Nat.digitChar m] :=
    fun m hm => Nat.toDigits_of_lt_base hm
  have h2 : n / 16 / 16 = n / 0x100 := Nat.div_div_eq_div_mul n 16 16
  have h3 : n / 0x100 / 16 = n / 0x1000 := Nat.div_div_eq_div_mul n 0x100 16
  unfold hexPadded
  -- The number of digits decides how many zeros are put in front.
  rcases Nat.lt_or_ge n 0x10 with h₁ | h₁
  · have hzero : n / 0x10 = 0 ∧ n / 0x100 = 0 ∧ n / 0x1000 = 0 := by omega
    rw [hshort n h₁, hzero.1, hzero.2.1, hzero.2.2, Nat.mod_eq_of_lt h₁]
    rfl
  rw [hlong n h₁]
  rcases Nat.lt_or_ge n 0x100 with h₂ | h₂
  · have hzero : n / 0x100 = 0 ∧ n / 0x1000 = 0 := by omega
    rw [hshort (n / 16) (by omega), hzero.1, hzero.2, Nat.mod_eq_of_lt (by omega : n / 0x10 < 16)]
    rfl
  rw [hlong (n / 16) (by omega), h2]
  rcases Nat.lt_or_ge n 0x1000 with h₃ | h₃
  · have hzero : n / 0x1000 = 0 := by omega
    rw [hshort (n / 0x100) (by omega), hzero, Nat.mod_eq_of_lt (by omega : n / 0x100 < 16)]
    rfl
  · rw [hlong (n / 0x100) (by omega), h3, hshort (n / 0x1000) (by omega)]
    rfl

/-! ## Code units -/

/-- The number of a character is that of no surrogate. -/
theorem isValidChar_toNat (c : Char) : c.toNat < 0xD800 ∨ 0xDFFF < c.toNat ∧ c.toNat < 0x110000 :=
  c.valid

/-- A code unit is below 2^16. -/
theorem lt_of_mem_codeUnits {c : Char} {unit : Nat} (h : unit ∈ codeUnits c) : unit < 0x10000 := by
  have hvalid := isValidChar_toNat c
  unfold codeUnits at h
  dsimp only at h
  split at h
  · rw [List.mem_singleton] at h
    omega
  · simp only [List.mem_cons, List.not_mem_nil, or_false] at h
    omega

/-- The code units of a character are joined to the character, whatever follows. -/
theorem joinUnits_codeUnits_append (c : Char) (units : List Nat) :
    joinUnits (codeUnits c ++ units) = c :: joinUnits units := by
  have hvalid := isValidChar_toNat c
  unfold codeUnits
  dsimp only
  split
  · next hshort =>
    -- A single unit is no surrogate, so it does not join with what follows.
    have hhigh : isHighSurrogate c.toNat = false := by
      simp only [isHighSurrogate, Bool.and_eq_false_iff, decide_eq_false_iff_not]
      omega
    have hlow : isLowSurrogate c.toNat = false := by
      simp only [isLowSurrogate, Bool.and_eq_false_iff, decide_eq_false_iff_not]
      omega
    have hchar : charOfUnit c.toNat = c := by
      rw [charOfUnit, hhigh, hlow, Bool.or_self, if_neg Bool.false_ne_true, Char.ofNat_toNat]
    cases units with
    | nil => rw [List.append_nil, joinUnits, joinUnits, hchar]
    | cons next more =>
      rw [List.singleton_append, joinUnits, hhigh, Bool.false_and, if_neg Bool.false_ne_true, hchar]
  · next hlong =>
    have hhigh : isHighSurrogate (0xD800 + (c.toNat - 0x10000) / 0x400) = true := by
      simp only [isHighSurrogate, Bool.and_eq_true, decide_eq_true_eq]
      omega
    have hlow : isLowSurrogate (0xDC00 + (c.toNat - 0x10000) % 0x400) = true := by
      simp only [isLowSurrogate, Bool.and_eq_true, decide_eq_true_eq]
      omega
    have hnumber : 0x10000 + (0xD800 + (c.toNat - 0x10000) / 0x400 - 0xD800) * 0x400 +
        (0xDC00 + (c.toNat - 0x10000) % 0x400 - 0xDC00) = c.toNat := by omega
    rw [List.cons_append, List.singleton_append, joinUnits, hhigh, hlow, Bool.and_self, if_pos rfl,
      hnumber, Char.ofNat_toNat]

/-- The code units of a text are joined to the text. -/
theorem joinUnits_flatMap_codeUnits (s : List Char) : joinUnits (s.flatMap codeUnits) = s := by
  induction s with
  | nil => rfl
  | cons c rest ih => rw [List.flatMap_cons, joinUnits_codeUnits_append, ih]

/-! ## Characters -/

/-- An escaped code unit is read, and reading goes on behind it. -/
theorem readUnits_unitEscape {unit : Nat} (h : unit < 0x10000) (s : List Char) :
    readUnits (unitEscape unit ++ s) =
      (readUnits s).map fun (units, rest) => (unit :: units, rest) := by
  have hnumber : ((unit / 0x1000 * 16 + unit / 0x100 % 16) * 16 + unit / 0x10 % 16) * 16 +
      unit % 16 = unit := by omega
  rw [unitEscape, hexPadded_four h]
  simp only [List.cons_append, List.nil_append]
  rw [readUnits, (hexDigit?_digitChar (unit / 0x1000) (by omega)).1,
    (hexDigit?_digitChar (unit / 0x100 % 16) (by omega)).1,
    (hexDigit?_digitChar (unit / 0x10 % 16) (by omega)).1,
    (hexDigit?_digitChar (unit % 16) (by omega)).1]
  simp only [hnumber]

/-- Escaped code units are read, and reading goes on behind them. -/
theorem readUnits_flatMap_unitEscape {escaped : List Nat} (h : ∀ unit ∈ escaped, unit < 0x10000)
    (s : List Char) :
    readUnits (escaped.flatMap unitEscape ++ s) =
      (readUnits s).map fun (units, rest) => (escaped ++ units, rest) := by
  induction escaped with
  | nil => cases h : readUnits s <;> simp [h]
  | cons unit more ih =>
    rw [List.flatMap_cons, List.append_assoc, readUnits_unitEscape (h unit (by simp)),
      ih fun u hu => h u (by simp [hu])]
    cases readUnits s <;> rfl

/-- A short escape is read, and reading goes on behind it. -/
theorem readUnits_shortEscape {letter : Char} {unit : Nat} (hletter : letter ≠ 'u')
    (h : shortEscape? letter = some unit) (s : List Char) :
    readUnits ('\\' :: letter :: s) =
      (readUnits s).map fun (units, rest) => (unit :: units, rest) := by
  rw [readUnits, h]
  rintro a b c d rest rfl
  exact absurd rfl hletter

/-- A printable character that needs no escape is read as itself. -/
theorem readUnits_printable {c : Char} (hquote : c ≠ '"') (hslash : c ≠ '\\') (h : 0x20 ≤ c.toNat)
    (s : List Char) :
    readUnits (c :: s) = (readUnits s).map fun (units, rest) => (c.toNat :: units, rest) := by
  rw [readUnits, if_neg (Nat.not_lt.2 h)]
  · exact hquote
  · exact fun _ _ _ _ _ heq => absurd heq hslash
  · exact fun _ _ heq => absurd heq hslash

/-- A written character is read as its code units, and reading goes on behind it. -/
theorem readUnits_writeChar (c : Char) (s : List Char) :
    readUnits (writeChar c ++ s) =
      (readUnits s).map fun (units, rest) => (codeUnits c ++ units, rest) := by
  have hsingle : c.toNat < 0x10000 → codeUnits c = [c.toNat] := fun h => by
    unfold codeUnits
    exact if_pos h
  unfold writeChar
  split_ifs with hquote hslash hfeed hreturn htab hback hform hprintable
  · subst hquote
    exact readUnits_shortEscape (by decide) rfl s
  · subst hslash
    exact readUnits_shortEscape (by decide) rfl s
  · subst hfeed
    exact readUnits_shortEscape (by decide) rfl s
  · subst hreturn
    exact readUnits_shortEscape (by decide) rfl s
  · subst htab
    exact readUnits_shortEscape (by decide) rfl s
  · rw [hsingle (by omega), hback]
    exact readUnits_shortEscape (by decide) rfl s
  · rw [hsingle (by omega), hform]
    exact readUnits_shortEscape (by decide) rfl s
  · simp only [Bool.and_eq_true, decide_eq_true_eq] at hprintable
    rw [hsingle (by omega)]
    exact readUnits_printable hquote hslash hprintable.1 s
  · exact readUnits_flatMap_unitEscape (fun unit => lt_of_mem_codeUnits) s

/-! ## Strings -/

/-- A written string is read up to its closing quote. -/
theorem readUnits_flatMap_writeChar (s rest : List Char) :
    readUnits (s.flatMap writeChar ++ '"' :: rest) = some (s.flatMap codeUnits, rest) := by
  induction s with
  | nil => rfl
  | cons c more ih =>
    rw [List.flatMap_cons, List.append_assoc, readUnits_writeChar, ih]
    rfl

/-- A written string with something behind it, from its first quote on. -/
theorem writeString_append (s : String) (rest : List Char) :
    writeString s ++ rest = '"' :: (s.toList.flatMap writeChar ++ '"' :: rest) := by
  simp [writeString]

/-- A written string is read as the string. -/
theorem readString_writeString (s : String) (rest : List Char) :
    readString (s.toList.flatMap writeChar ++ '"' :: rest) = some (s, rest) := by
  rw [readString, readUnits_flatMap_writeChar, Option.map_some]
  dsimp only
  rw [joinUnits_flatMap_codeUnits, String.ofList_toList]

/-- A text is ASCII if each of its characters is found to be. -/
theorem lt_of_all {l : List Char} (hl : l.all (fun c => decide (c.toNat < 128)) = true) {c : Char}
    (h : c ∈ l) : c.toNat < 128 :=
  of_decide_eq_true (List.all_eq_true.1 hl c h)

/-- A written character is ASCII. -/
theorem lt_of_mem_writeChar {c d : Char} (h : d ∈ writeChar c) : d.toNat < 128 := by
  unfold writeChar at h
  split_ifs at h with hquote hslash hfeed hreturn htab hback hform hprintable
  · exact lt_of_all (by decide) h
  · exact lt_of_all (by decide) h
  · exact lt_of_all (by decide) h
  · exact lt_of_all (by decide) h
  · exact lt_of_all (by decide) h
  · exact lt_of_all (by decide) h
  · exact lt_of_all (by decide) h
  · simp only [Bool.and_eq_true, decide_eq_true_eq] at hprintable
    rw [List.mem_singleton] at h
    rw [h]
    omega
  · obtain ⟨unit, hunit, hd⟩ := List.mem_flatMap.1 h
    have hlt := lt_of_mem_codeUnits hunit
    rw [unitEscape, hexPadded_four hlt] at hd
    simp only [List.mem_cons, List.not_mem_nil, or_false] at hd
    rcases hd with rfl | rfl | rfl | rfl | rfl | rfl
    · decide
    · decide
    · exact (hexDigit?_digitChar _ (by omega)).2
    · exact (hexDigit?_digitChar _ (by omega)).2
    · exact (hexDigit?_digitChar _ (by omega)).2
    · exact (hexDigit?_digitChar _ (by omega)).2

/-- A written string is ASCII. -/
theorem lt_of_mem_writeString {s : String} {d : Char} (h : d ∈ writeString s) : d.toNat < 128 := by
  simp only [writeString, List.mem_cons, List.mem_append, List.mem_flatMap, List.cons_append,
    List.not_mem_nil, or_false] at h
  rcases h with rfl | ⟨c, -, hd⟩ | rfl
  · decide
  · exact lt_of_mem_writeChar hd
  · decide

end MarkupOutline.Json
