import Mathlib.Algebra.Group.Nat.Defs
import Mathlib.Data.List.Nodup
import MarkupOutline.Proofs.Json.Strings
import MarkupOutline.Text.Quoted

/-!
# Quoted texts

A quoted text tells its text. The quote in front tells which quote is escaped inside, and then the
text is read off one character at a time: a backslash begins an escape, whose second character says
how many digits follow, and anything else stands for itself (`quotedChar_append_inj`). So texts that
differ are quoted differently (`quoted_injective`), and a message that quotes a name names it.
-/

namespace MarkupOutline.Text

/-! ## Numbers in escapes -/

/-- The number that hexadecimal digits stand for. -/
def hexValue (s : List Char) : Nat := s.foldl (fun n c => 16 * n + (Json.hexDigit? c).getD 0) 0

/-- One more digit. -/
theorem hexValue_append_digit (s : List Char) {d : Nat} (h : d < 16) :
    hexValue (s ++ [Nat.digitChar d]) = 16 * hexValue s + d := by
  rw [hexValue, List.foldl_append, List.foldl_cons, List.foldl_nil,
    (Json.hexDigit?_digitChar d h).1]
  rfl

/-- Zeros stand for nothing. -/
theorem hexValue_zeros (zeros : Nat) : hexValue (List.replicate zeros '0') = 0 := by
  induction zeros with
  | zero => rfl
  | succ zeros ih => exact ih

/-- The digits of a number stand for it, also behind zeros. -/
theorem hexValue_zeros_append (zeros n : Nat) :
    hexValue (List.replicate zeros '0' ++ Nat.toDigits 16 n) = n := by
  induction n using Nat.strongRecOn with
  | ind n ih =>
    rcases Nat.lt_or_ge n 16 with hshort | hlong
    · rw [Nat.toDigits_of_lt_base hshort, hexValue_append_digit _ hshort, hexValue_zeros]
      omega
    · rw [Nat.toDigits_of_base_le (by decide) hlong, ← List.append_assoc,
        hexValue_append_digit _ (Nat.mod_lt n (by decide)), ih (n / 16) (by omega)]
      omega

/-- Padded digits stand for their number. -/
theorem hexValue_hexPadded (width n : Nat) : hexValue (hexPadded width n) = n :=
  hexValue_zeros_append _ n

/-- Padded digits have the given width, if that is enough for the number. -/
theorem length_hexPadded {width n : Nat} (hwidth : 0 < width) (h : n < 16 ^ width) :
    (hexPadded width n).length = width := by
  have hdigits : (Nat.toDigits 16 n).length ≤ width :=
    (Nat.length_toDigits_le_iff (by decide) hwidth).2 h
  rw [hexPadded, List.length_append, List.length_replicate]
  omega

/-- Padded digits end where they end, and tell their number. -/
theorem hexPadded_append_inj {width m n : Nat} (hwidth : 0 < width) (hm : m < 16 ^ width)
    (hn : n < 16 ^ width) {s t : List Char} (h : hexPadded width m ++ s = hexPadded width n ++ t) :
    m = n ∧ s = t := by
  obtain ⟨hdigits, hrest⟩ := List.append_inj h <| by
    rw [length_hexPadded hwidth hm, length_hexPadded hwidth hn]
  refine ⟨?_, hrest⟩
  rw [← hexValue_hexPadded width m, hdigits, hexValue_hexPadded]

/-! ## Characters -/

/-- A quote is one of the two characters used as quotes. -/
def IsQuote (c : Char) : Prop := c = '\'' ∨ c = '"'

/-- The characters that are written as a backslash and one more, and which that is. -/
def shortEscapes (quote : Char) : List (Char × Char) :=
  [('\\', '\\'), (quote, quote), ('\n', 'n'), ('\r', 'r'), ('\t', 't')]

/-- The letters behind a backslash that begin a number, and how many digits it has. -/
def numberLetters : List (Char × Nat) := [('x', 2), ('u', 4), ('U', 8)]

/-- How a character stands in a quoted text. -/
inductive IsQuotedAs (quote : Char) : Char → List Char → Prop where
  /-- As itself. -/
  | plain {c : Char} : c ≠ '\\' → IsQuotedAs quote c [c]
  /-- By a short escape. -/
  | short {c letter : Char} : (c, letter) ∈ shortEscapes quote → IsQuotedAs quote c ['\\', letter]
  /-- By its number. -/
  | numbered {c letter : Char} {width : Nat} : (letter, width) ∈ numberLetters →
      c.toNat < 16 ^ width → IsQuotedAs quote c ('\\' :: letter :: hexPadded width c.toNat)

/-- Every character of a quoted text stands there in one of these ways. -/
theorem isQuotedAs_quotedChar (quote c : Char) : IsQuotedAs quote c (quotedChar quote c) := by
  unfold quotedChar
  split
  · next h =>
    simp only [Bool.or_eq_true, decide_eq_true_eq] at h
    exact .short (by rcases h with rfl | rfl <;> simp [shortEscapes])
  next hmarked =>
  simp only [Bool.or_eq_true, decide_eq_true_eq, not_or] at hmarked
  split
  · next h => exact .short (by simp [shortEscapes, h])
  split
  · next h => exact .short (by simp [shortEscapes, h])
  split
  · next h => exact .short (by simp [shortEscapes, h])
  split
  · exact .plain hmarked.1
  split
  · next h => exact .numbered (by simp [numberLetters]) h
  split
  · next h => exact .numbered (by simp [numberLetters]) h
  · -- Eight digits are enough for every character.
    have hletter : ('U', 8) ∈ numberLetters := by simp [numberLetters]
    have hvalid := Json.isValidChar_toNat c
    exact .numbered hletter (by omega)

/-- A short escape stands for one character. -/
theorem eq_of_mem_shortEscapes {quote : Char} (hquote : IsQuote quote) {c d letter : Char}
    (hc : (c, letter) ∈ shortEscapes quote) (hd : (d, letter) ∈ shortEscapes quote) : c = d := by
  have hletters : ((shortEscapes quote).map Prod.snd).Nodup := by
    rcases hquote with rfl | rfl <;> decide
  exact congrArg Prod.fst (List.inj_on_of_nodup_map hletters hc hd rfl)

/-- No short escape begins a number. -/
theorem not_mem_numberLetters {quote : Char} (hquote : IsQuote quote) {c letter : Char}
    (hc : (c, letter) ∈ shortEscapes quote) (width : Nat) : (letter, width) ∉ numberLetters := by
  have hletters : ((shortEscapes quote).map Prod.snd).all
      (fun l => !(numberLetters.map Prod.fst).contains l) = true := by
    rcases hquote with rfl | rfl <;> decide
  intro hn
  have hfree := List.all_eq_true.1 hletters letter (List.mem_map_of_mem hc)
  rw [List.contains_iff_mem.2 (List.mem_map_of_mem hn)] at hfree
  cases hfree

/-- A letter tells how many digits a number has. -/
theorem width_eq_of_mem_numberLetters {letter : Char} {m n : Nat}
    (hm : (letter, m) ∈ numberLetters) (hn : (letter, n) ∈ numberLetters) : m = n := by
  have hletters : (numberLetters.map Prod.fst).Nodup := by decide
  exact congrArg Prod.snd (List.inj_on_of_nodup_map hletters hm hn rfl)

/-- A number has digits. -/
theorem pos_of_mem_numberLetters {letter : Char} {width : Nat}
    (h : (letter, width) ∈ numberLetters) : 0 < width := by
  have hwidths : ∀ n ∈ numberLetters.map Prod.snd, 0 < n := by decide
  exact hwidths width (List.mem_map_of_mem h)

/-- A quoted character ends where it ends, and tells its character. -/
theorem quotedChar_append_inj {quote : Char} (hquote : IsQuote quote) {c d : Char}
    {s t : List Char} (h : quotedChar quote c ++ s = quotedChar quote d ++ t) : c = d ∧ s = t := by
  have hc := isQuotedAs_quotedChar quote c
  have hd := isQuotedAs_quotedChar quote d
  generalize quotedChar quote c = cs at h hc
  generalize quotedChar quote d = ds at h hd
  cases hc with
  | plain hplain =>
    -- Only a character that stands for itself does not begin with a backslash.
    cases hd with
    | plain => exact List.cons.inj h
    | short => exact absurd (List.cons.inj h).1 hplain
    | numbered => exact absurd (List.cons.inj h).1 hplain
  | short hshort =>
    cases hd with
    | plain hplain => exact absurd (List.cons.inj h).1.symm hplain
    | short hshort' =>
      obtain ⟨rfl, hrest⟩ := List.cons.inj (List.cons.inj h).2
      exact ⟨eq_of_mem_shortEscapes hquote hshort hshort', hrest⟩
    | numbered hletter =>
      obtain ⟨rfl, -⟩ := List.cons.inj (List.cons.inj h).2
      exact absurd hletter (not_mem_numberLetters hquote hshort _)
  | numbered hletter hlt =>
    cases hd with
    | plain hplain => exact absurd (List.cons.inj h).1.symm hplain
    | short hshort =>
      obtain ⟨rfl, -⟩ := List.cons.inj (List.cons.inj h).2
      exact absurd hletter (not_mem_numberLetters hquote hshort _)
    | numbered hletter' hlt' =>
      obtain ⟨rfl, hnumbers⟩ := List.cons.inj (List.cons.inj h).2
      obtain rfl := width_eq_of_mem_numberLetters hletter hletter'
      obtain ⟨hnumber, hrest⟩ :=
        hexPadded_append_inj (pos_of_mem_numberLetters hletter) hlt hlt' hnumbers
      exact ⟨Char.toNat_inj.1 hnumber, hrest⟩

/-! ## Texts -/

/-- A text is put between quotes. -/
theorem isQuote_quoteFor (s : List Char) : IsQuote (quoteFor s) := by
  unfold quoteFor
  split
  · exact .inr rfl
  · exact .inl rfl

/-- The characters between two quotes tell the text. -/
theorem flatMap_quotedChar_inj {quote : Char} (hquote : IsQuote quote) {s t : List Char}
    (h : s.flatMap (quotedChar quote) = t.flatMap (quotedChar quote)) : s = t := by
  have hne : ∀ c, quotedChar quote c ≠ [] := by
    intro c hnil
    have hc := isQuotedAs_quotedChar quote c
    rw [hnil] at hc
    cases hc
  induction s generalizing t with
  | nil =>
    cases t with
    | nil => rfl
    | cons d more => exact absurd (List.append_eq_nil_iff.1 h.symm).1 (hne d)
  | cons c rest ih =>
    cases t with
    | nil => exact absurd (List.append_eq_nil_iff.1 h).1 (hne c)
    | cons d more =>
      obtain ⟨rfl, hrest⟩ := quotedChar_append_inj hquote h
      rw [ih hrest]

/-- Texts that differ are quoted differently. -/
theorem quoted_injective : Function.Injective quoted := by
  intro a b h
  have hchars := String.ofList_inj.1 h
  obtain ⟨hquote, hrest⟩ := List.cons.inj hchars
  rw [hquote] at hrest
  exact String.toList_inj.1
    (flatMap_quotedChar_inj (isQuote_quoteFor b.toList) (List.append_cancel_right hrest))

/-! ## Texts that are quoted as they stand -/

/-- Characters that stand for themselves between single quotes: the ASCII ones that are neither
controls nor a quote nor a backslash. -/
def isQuotedAsItself (c : Char) : Bool :=
  32 ≤ c.toNat && c.toNat < 127 && c != '\'' && c != '\\'

/-- Such a character is written as it is. -/
theorem quotedChar_of_isQuotedAsItself {c : Char} (h : isQuotedAsItself c = true) :
    quotedChar '\'' c = [c] := by
  simp only [isQuotedAsItself, Bool.and_eq_true, decide_eq_true_eq, bne_iff_ne] at h
  obtain ⟨⟨⟨hlow, hhigh⟩, hquote⟩, hbackslash⟩ := h
  -- The first range ends in front of the space, and the second begins behind the tilde.
  have hranges : ∀ range ∈ unprintableRanges, range.2 < 32 ∨ 127 ≤ range.1 := by
    decide +kernel
  have hprintable : isPrintable c = true := by
    rw [isPrintable, Bool.not_eq_true', List.any_eq_false]
    intro range hrange hin
    rw [Bool.and_eq_true, decide_eq_true_eq, decide_eq_true_eq] at hin
    rcases hranges range hrange with hbefore | hbehind
    · omega
    · omega
  have hcontrol (d : Char) (hd : d.toNat < 32) : c ≠ d := by
    rintro rfl
    omega
  rw [quotedChar, if_neg (by simp [hquote, hbackslash]), if_neg (hcontrol '\n' (by decide)),
    if_neg (hcontrol '\r' (by decide)), if_neg (hcontrol '\t' (by decide)), if_pos hprintable]

/-- A text of such characters is quoted as it is. -/
theorem quoted_of_isQuotedAsItself {s : String} (h : s.toList.all isQuotedAsItself = true) :
    quoted s = "'" ++ s ++ "'" := by
  rw [List.all_eq_true] at h
  have hquote : quoteFor s.toList = '\'' := by
    have hfree : '\'' ∉ s.toList := fun hmem => absurd (h '\'' hmem) (by decide)
    rw [quoteFor, List.contains_eq_mem, decide_eq_false hfree]
    rfl
  have hchars : s.toList.flatMap (quotedChar '\'') = s.toList := by
    rw [List.flatMap_congr fun c hc => quotedChar_of_isQuotedAsItself (h c hc),
      List.flatMap_singleton']
  rw [quoted, hquote, hchars, ← String.toList_inj]
  simp

end MarkupOutline.Text
