import MarkupOutline.Html.Reference.Decoding
import MarkupOutline.Proofs.Text.Escaping

/-!
# References of escaped text

The five references that escaping writes are known to the reader, each with the semicolon at its
end, so that what follows them does not matter (`reference_of_named`). Escaped text is therefore read
back as it was (`decode_escape`). No text gets longer when its references are read, since a reference
stands for no more characters than it takes up (`length_decodeAfter_le`).
-/

namespace MarkupOutline

namespace Html.Reference

open Text

/-! ## Known names -/

/-- Every known name stands for one or two characters. -/
theorem length_of_mem_namesUnder (c : Char) :
    ∀ e ∈ namesUnder c, 1 ≤ e.2.length ∧ e.2.length ≤ 2 := by
  unfold namesUnder
  split <;> decide +kernel

/-- What a name stands for, if it stands for something. -/
theorem length_of_named {name characters : List Char} (h : named? name = some characters) :
    name ≠ [] ∧ 1 ≤ characters.length ∧ characters.length ≤ 2 := by
  unfold named? at h
  split at h
  · cases h
  · next first more =>
    obtain ⟨e, he, rfl⟩ := Option.map_eq_some_iff.1 h
    have hlength := length_of_mem_namesUnder first e (List.mem_of_find?_eq_some he)
    rw [List.length_map]
    exact ⟨List.cons_ne_nil _ _, hlength⟩

/-! ## References at the start of a text -/

/-- Characters that belong to a reference already replaced are passed over. -/
theorem decodeAfter_append (inAttribute : Bool) (passed s : List Char) :
    decodeAfter inAttribute passed.length (passed ++ s) = decodeAfter inAttribute 0 s := by
  induction passed with
  | nil => rfl
  | cons c rest ih => rw [List.cons_append, List.length_cons, decodeAfter, ih]

/-- A recognised reference is replaced, and decoding goes on behind it. -/
theorem decodeAfter_reference {inAttribute : Bool} (name characters : List Char) {s : List Char}
    (h : reference? inAttribute (name ++ s) = some (characters, name.length)) :
    decodeAfter inAttribute 0 ('&' :: (name ++ s)) =
      characters ++ decodeAfter inAttribute 0 s := by
  rw [decodeAfter, if_pos rfl, h]
  dsimp only
  rw [decodeAfter_append]

/-- A known name is recognised with the semicolon behind it, whatever follows. -/
theorem reference_of_named {name characters : List Char}
    (hname : name.all Char.isAlphanum = true) (h : named? name = some characters)
    (inAttribute : Bool) (s : List Char) :
    reference? inAttribute (name ++ ';' :: s) = some (characters, name.length + 1) := by
  rw [List.all_eq_true] at hname
  have hword : (name ++ ';' :: s).takeWhile Char.isAlphanum = name := by
    rw [List.takeWhile_append_of_pos hname, List.takeWhile_cons_of_neg (by decide),
      List.append_nil]
  have hrecognised : name? inAttribute (name ++ ';' :: s) = some (characters, name.length + 1) := by
    unfold name?
    simp only [hword, List.drop_left, List.head?_cons, if_pos, h]
  obtain ⟨first, more, rfl⟩ := List.exists_cons_of_ne_nil (length_of_named h).1
  -- A name does not begin like a number.
  have hfirst : first ≠ '#' := by
    rintro rfl
    exact absurd (hname '#' List.mem_cons_self) (by decide)
  rw [List.cons_append] at hrecognised ⊢
  unfold reference?
  split
  · next heq => exact absurd (List.cons.inj heq).1 hfirst
  · next heq => exact absurd (List.cons.inj heq).1 hfirst
  · next heq => exact absurd (List.cons.inj heq).1 hfirst
  · exact hrecognised

/-- A known name is replaced together with the ampersand and the semicolon around it. -/
theorem decodeAfter_named {name characters : List Char}
    (hname : name.all Char.isAlphanum = true) (h : named? name = some characters)
    (inAttribute : Bool) (s : List Char) :
    decodeAfter inAttribute 0 ('&' :: (name ++ ';' :: s)) =
      characters ++ decodeAfter inAttribute 0 s := by
  have hlength : (name ++ [';']).length = name.length + 1 := List.length_append
  have hreference := reference_of_named hname h inAttribute s
  rw [List.append_cons, ← hlength] at hreference
  rw [List.append_cons]
  exact decodeAfter_reference (name ++ [';']) characters hreference

/-- What is written for a character is read as the character. -/
theorem decodeAfter_escapeChar (inAttribute : Bool) (c : Char) (s : List Char) :
    decodeAfter inAttribute 0 (escapeChar c ++ s) = c :: decodeAfter inAttribute 0 s := by
  by_cases hc : c ∈ specials
  · revert c
    have hamp : named? "amp".toList = some ['&'] := by decide +kernel
    have hlt : named? "lt".toList = some ['<'] := by decide +kernel
    have hgt : named? "gt".toList = some ['>'] := by decide +kernel
    have hquot : named? "quot".toList = some ['"'] := by decide +kernel
    exact forall_mem_specials.2
      ⟨decodeAfter_named (by decide) hamp inAttribute s,
        decodeAfter_named (by decide) hlt inAttribute s,
        decodeAfter_named (by decide) hgt inAttribute s,
        decodeAfter_named (by decide) hquot inAttribute s,
        decodeAfter_reference "#x27;".toList ['\''] rfl⟩
  · rw [escapeChar_of_not_mem hc, List.singleton_append, decodeAfter,
      if_neg (not_mem_specials_iff.1 hc).1]

/-- Escaped text is read as the text. -/
theorem decode_escape (inAttribute : Bool) (s : List Char) :
    decode inAttribute (escape s) = s := by
  unfold decode
  induction s with
  | nil => rfl
  | cons c rest ih => rw [escape_cons, decodeAfter_escapeChar, ih]

/-! ## Lengths -/

/-- A number stands for one character. -/
theorem length_of_numeric {base skipped taken : Nat} {isDigit : Char → Bool}
    {s characters : List Char} (h : numeric? base isDigit skipped s = some (characters, taken)) :
    characters.length = 1 := by
  unfold numeric? at h
  dsimp only at h
  split at h
  · cases h
  · cases h
    rfl

/-- A name stands for one or two characters and takes up at least one. -/
theorem length_of_name {inAttribute : Bool} {s characters : List Char} {taken : Nat}
    (h : name? inAttribute s = some (characters, taken)) :
    1 ≤ characters.length ∧ characters.length ≤ 2 ∧ 1 ≤ taken ∧ 1 ≤ s.length := by
  have hs : 1 ≤ s.length := by
    cases s with
    | nil => cases inAttribute <;> cases h
    | cons c rest => exact Nat.succ_pos _
  unfold name? at h
  dsimp only at h
  split at h
  · next found hfound =>
    cases h
    split at hfound
    · obtain ⟨-, hlow, hhigh⟩ := length_of_named hfound
      exact ⟨hlow, hhigh, Nat.succ_pos _, hs⟩
    · cases hfound
  · split at h
    · cases h
    · next name _ =>
      have hnamed : (named? name).map (·, name.length) = some (characters, taken) := by
        split at h <;> split at h <;> first | cases h | exact h
      obtain ⟨found, hfound, heq⟩ := Option.map_eq_some_iff.1 hnamed
      cases heq
      obtain ⟨hname, hlow, hhigh⟩ := length_of_named hfound
      exact ⟨hlow, hhigh, List.length_pos_of_ne_nil hname, hs⟩

/-- A recognised reference stands for some characters, and for no more than it takes up, the
ampersand included. -/
theorem length_of_reference {inAttribute : Bool} {s characters : List Char} {taken : Nat}
    (h : reference? inAttribute s = some (characters, taken)) :
    1 ≤ characters.length ∧ characters.length ≤ 1 + min taken s.length := by
  have hnumeric : characters.length = 1 →
      1 ≤ characters.length ∧ characters.length ≤ 1 + min taken s.length := by
    intro hone
    omega
  unfold reference? at h
  split at h
  · exact hnumeric (length_of_numeric h)
  · exact hnumeric (length_of_numeric h)
  · exact hnumeric (length_of_numeric h)
  · obtain ⟨hlow, hhigh, htaken, hs⟩ := length_of_name h
    omega

/-- Reading references never makes a text longer. -/
theorem length_decodeAfter_le (inAttribute : Bool) (passed : Nat) (s : List Char) :
    (decodeAfter inAttribute passed s).length ≤ s.length - passed := by
  induction s generalizing passed with
  | nil =>
    rw [decodeAfter]
    exact Nat.zero_le _
  | cons c rest ih =>
    cases passed with
    | succ passed =>
      rw [decodeAfter, List.length_cons]
      have := ih passed
      omega
    | zero =>
      have hrest := ih 0
      rw [decodeAfter, List.length_cons]
      split
      · split
        · next characters taken hreference =>
          have hcharacters := (length_of_reference hreference).2
          have hbehind := ih taken
          rw [List.length_append]
          omega
        · rw [List.length_cons]
          omega
      · rw [List.length_cons]
        omega

/-- Something is read of every text that is not empty. -/
theorem decode_ne_nil (inAttribute : Bool) {s : List Char} (hs : s ≠ []) :
    decode inAttribute s ≠ [] := by
  obtain ⟨c, rest, rfl⟩ := List.exists_cons_of_ne_nil hs
  rw [decode, decodeAfter]
  split
  · split
    · next characters taken hreference =>
      have hcharacters := (length_of_reference hreference).1
      exact List.append_ne_nil_of_left_ne_nil (List.ne_nil_of_length_pos hcharacters) _
    · exact List.cons_ne_nil _ _
  · exact List.cons_ne_nil _ _

end Html.Reference

end MarkupOutline
