import MarkupOutline.Proofs.Json.Strings

/-!
# Reading written values

A value without numbers and literal names is read back as it was written (`read?_write`), in every
layout. The white space of a layout stands only where the reader skips it, so the reader sees the
same tokens whatever the indent is. Every nested value is shorter than the text around it, and the
bound on the reader's calls is the length of the text.
-/

namespace MarkupOutline

namespace Json

/-! ## Values without numbers -/

mutual

/-- Whether a value is made of texts, arrays, and objects with distinct keys. -/
def isTextual : Json → Bool
  | scalar (.str _) => true
  | scalar _ => false
  | array items => areTextual items
  | object entries => decide (entries.map Prod.fst).Nodup && haveTextual entries

/-- Whether all items of an array are such values. -/
def areTextual : List Json → Bool
  | [] => true
  | item :: more => item.isTextual && areTextual more

/-- Whether all entries of an object hold such values. -/
def haveTextual : List (String × Json) → Bool
  | [] => true
  | (_, value) :: more => value.isTextual && haveTextual more

end

/-- An object with distinct keys and such values is such a value. -/
theorem isTextual_object {entries : List (String × Json)} (hkeys : (entries.map Prod.fst).Nodup)
    (hvalues : haveTextual entries = true) : (object entries).isTextual = true := by
  rw [isTextual, decide_eq_true hkeys, hvalues]
  rfl

/-- A text is written as a string. -/
theorem writeAt_str (indent : Option Nat) (level : Nat) (s : String) :
    writeAt indent level (scalar (.str s)) = writeString s := by
  rw [writeAt]
  rfl

/-! ## Layout -/

/-- A character that is no space is not skipped. -/
theorem skipSpace_cons {c : Char} (h : isSpace c = false) (s : List Char) :
    skipSpace (c :: s) = c :: s := by
  rw [skipSpace, List.dropWhile_cons, if_neg (by rw [h]; exact Bool.false_ne_true)]

/-- The start of an item is skipped. -/
theorem skipSpace_itemBreak_append (indent : Option Nat) (level : Nat) (s : List Char) :
    skipSpace (itemBreak indent level ++ s) = skipSpace s := by
  cases indent with
  | none => rfl
  | some width =>
    have hspaces : ∀ c ∈ itemBreak (some width) level, isSpace c = true := by
      intro c hc
      rcases List.mem_cons.1 hc with rfl | hc
      · rfl
      · rw [List.eq_of_mem_replicate hc]
        rfl
    exact List.dropWhile_append_of_pos hspaces

/-- A separator is a comma with space behind it. -/
theorem exists_separator_eq (indent : Option Nat) (level : Nat) :
    ∃ gap, separator indent level = ',' :: gap ∧ ∀ s, skipSpace (gap ++ s) = skipSpace s := by
  cases indent with
  | none => exact ⟨[' '], rfl, fun s => rfl⟩
  | some width => exact ⟨itemBreak (some width) level, rfl, skipSpace_itemBreak_append _ _⟩

/-- A written value begins with a quote or an opening bracket. -/
theorem exists_writeAt_eq (indent : Option Nat) (level : Nat) {j : Json} (h : j.isTextual = true) :
    ∃ c s, writeAt indent level j = c :: s ∧ (c = '"' ∨ c = '[' ∨ c = '\x7b') := by
  cases j with
  | scalar value =>
    cases value with
    | str s =>
      refine ⟨'"', s.toList.flatMap writeChar ++ ['"'], ?_, .inl rfl⟩
      rw [writeAt_str, ← writeString_append, List.append_nil]
    | _ => cases h
  | array items =>
    refine ⟨'[', (writeAt indent level (array items)).tail, ?_, .inr (.inl rfl)⟩
    cases items <;> rw [writeAt] <;> rfl
  | object entries =>
    refine ⟨'\x7b', (writeAt indent level (object entries)).tail, ?_, .inr (.inr rfl)⟩
    rcases entries with _ | ⟨⟨key, value⟩, more⟩ <;> rw [writeAt] <;> rfl

/-- Nothing is skipped in front of a written value. -/
theorem skipSpace_writeAt_append (indent : Option Nat) (level : Nat) {j : Json}
    (h : j.isTextual = true) (s : List Char) :
    skipSpace (writeAt indent level j ++ s) = writeAt indent level j ++ s := by
  obtain ⟨c, t, heq, hc⟩ := exists_writeAt_eq indent level h
  rw [heq, List.cons_append]
  rcases hc with rfl | rfl | rfl <;> exact skipSpace_cons rfl _

/-! ## Items and entries one by one -/

/-- The items of an array behind the first, up to the closing bracket. -/
def readMoreItems (bound : Nat) (s : List Char) : Option (List Json × List Char) :=
  match skipSpace s with
  | ',' :: rest => readItems bound (skipSpace rest)
  | ']' :: rest => some ([], rest)
  | _ => none

/-- The entries of an object behind the first, up to the closing brace. -/
def readMoreEntries (bound : Nat) (s : List Char) : Option (List (String × Json) × List Char) :=
  match skipSpace s with
  | ',' :: rest => readEntries bound (skipSpace rest)
  | '\x7d' :: rest => some ([], rest)
  | _ => none

/-- Items are read one after the other. -/
theorem readItems_succ {bound : Nat} {s rest rest' : List Char} {item : Json} {more : List Json}
    (hitem : readValue bound s = some (item, rest))
    (hmore : readMoreItems bound rest = some (more, rest')) :
    readItems (bound + 1) s = some (item :: more, rest') := by
  unfold readMoreItems at hmore
  rw [readItems, hitem]
  dsimp only
  generalize skipSpace rest = behind at hmore ⊢
  split at hmore
  · exact congrArg (Option.map _) hmore
  · cases hmore
    rfl
  · cases hmore

/-- Entries are read one after the other. -/
theorem readEntries_succ (key : String) {bound : Nat} {s rest rest' : List Char} {value : Json}
    {more : List (String × Json)} (hvalue : readValue bound (skipSpace s) = some (value, rest))
    (hmore : readMoreEntries bound rest = some (more, rest')) :
    readEntries (bound + 1) ('"' :: (key.toList.flatMap writeChar ++ '"' :: ':' :: s)) =
      some ((key, value) :: more, rest') := by
  have hcolon : skipSpace (':' :: s) = ':' :: s := skipSpace_cons rfl s
  unfold readMoreEntries at hmore
  rw [readEntries, readString_writeString]
  simp only [hcolon, hvalue]
  generalize skipSpace rest = behind at hmore ⊢
  split at hmore
  · exact congrArg (Option.map _) hmore
  · cases hmore
    rfl
  · cases hmore

/-! ## Values -/

mutual

/-- A written value is read, and what stands behind it is left. -/
theorem readValue_writeAt (indent : Option Nat) : ∀ (j : Json) (level bound : Nat)
    (rest : List Char), j.isTextual = true → (writeAt indent level j).length ≤ bound →
    readValue bound (writeAt indent level j ++ rest) = some (j, rest)
  | _, _, 0, _, htextual, hbound => by
    obtain ⟨c, s, heq, -⟩ := exists_writeAt_eq indent _ htextual
    rw [heq] at hbound
    cases hbound
  | scalar (.str s), level, bound + 1, rest, _, _ => by
    rw [writeAt_str, writeString_append, readValue, readString_writeString]
    rfl
  | array [], level, bound + 1, rest, _, _ => by
    rw [writeAt, List.cons_append, List.singleton_append, readValue, skipSpace_cons rfl]
    rfl
  | array (item :: more), level, bound + 1, rest, htextual, hbound => by
    rw [isTextual, areTextual, Bool.and_eq_true] at htextual
    rw [writeAt] at hbound ⊢
    simp only [List.cons_append, List.length_cons, List.length_append, List.length_nil,
      List.append_assoc, List.nil_append] at hbound ⊢
    obtain ⟨bound, rfl⟩ : ∃ b, bound = b + 1 := Nat.exists_eq_add_one.2 (by omega)
    have hitem := readValue_writeAt indent item (level + 1) bound
      (writeItems indent (level + 1) more ++ (itemBreak indent level ++ ']' :: rest)) htextual.1
      (by omega)
    have hmore := readMoreItems_writeItems indent more (level + 1) level bound rest htextual.2
      (by omega)
    have hitems := readItems_succ hitem hmore
    obtain ⟨c, s, heq, hc⟩ := exists_writeAt_eq indent (level + 1) htextual.1
    rw [readValue, skipSpace_itemBreak_append, skipSpace_writeAt_append _ _ htextual.1]
    rw [heq] at hitems ⊢
    rcases hc with rfl | rfl | rfl <;> exact congrArg (Option.map _) hitems
  | object [], level, bound + 1, rest, _, _ => by
    rw [writeAt, List.cons_append, List.singleton_append, readValue, skipSpace_cons rfl]
    rfl
  | object ((key, value) :: more), level, bound + 1, rest, htextual, hbound => by
    rw [isTextual, haveTextual, Bool.and_eq_true, Bool.and_eq_true, decide_eq_true_eq] at htextual
    obtain ⟨hkeys, htextual⟩ := htextual
    rw [writeAt] at hbound ⊢
    simp only [List.cons_append, List.length_cons, List.length_append, List.length_nil,
      List.append_assoc, List.nil_append] at hbound ⊢
    obtain ⟨bound, rfl⟩ : ∃ b, bound = b + 1 := Nat.exists_eq_add_one.2 (by omega)
    have hvalue := readValue_writeAt indent value (level + 1) bound
      (writeEntries indent (level + 1) more ++ (itemBreak indent level ++ '\x7d' :: rest))
      htextual.1 (by omega)
    have hmore := readMoreEntries_writeEntries indent more (level + 1) level bound rest htextual.2
      (by omega)
    rw [← skipSpace_writeAt_append indent (level + 1) htextual.1] at hvalue
    have hentries := readEntries_succ key (s := ' ' :: _) hvalue hmore
    rw [readValue, skipSpace_itemBreak_append, writeString_append, skipSpace_cons rfl]
    refine (congrArg (Option.map _) hentries).trans ?_
    rw [Option.map_some]
    dsimp only
    rw [Entries.ofList_of_nodup hkeys]

/-- Written items are read one by one, and what stands behind the bracket is left. -/
theorem readMoreItems_writeItems (indent : Option Nat) : ∀ (items : List Json)
    (level outer bound : Nat) (rest : List Char), areTextual items = true →
    (writeItems indent level items).length ≤ bound →
    readMoreItems bound (writeItems indent level items ++ (itemBreak indent outer ++ ']' :: rest)) =
      some (items, rest)
  | [], level, outer, bound, rest, _, _ => by
    rw [writeItems, List.nil_append, readMoreItems, skipSpace_itemBreak_append, skipSpace_cons rfl]
    rfl
  | item :: more, level, outer, bound, rest, htextual, hbound => by
    obtain ⟨gap, hgap, hskip⟩ := exists_separator_eq indent level
    rw [areTextual, Bool.and_eq_true] at htextual
    rw [writeItems, hgap] at hbound ⊢
    simp only [List.cons_append, List.length_cons, List.length_append, List.append_assoc]
      at hbound ⊢
    obtain ⟨bound, rfl⟩ : ∃ b, bound = b + 1 := Nat.exists_eq_add_one.2 (by omega)
    have hitem := readValue_writeAt indent item level bound
      (writeItems indent level more ++ (itemBreak indent outer ++ ']' :: rest)) htextual.1
      (by omega)
    have hmore := readMoreItems_writeItems indent more level outer bound rest htextual.2 (by omega)
    have hitems := readItems_succ hitem hmore
    rw [← skipSpace_writeAt_append indent level htextual.1, ← hskip] at hitems
    rw [readMoreItems, skipSpace_cons rfl]
    exact hitems

/-- Written entries are read one by one, and what stands behind the brace is left. -/
theorem readMoreEntries_writeEntries (indent : Option Nat) : ∀ (entries : List (String × Json))
    (level outer bound : Nat) (rest : List Char), haveTextual entries = true →
    (writeEntries indent level entries).length ≤ bound →
    readMoreEntries bound
        (writeEntries indent level entries ++ (itemBreak indent outer ++ '\x7d' :: rest)) =
      some (entries, rest)
  | [], level, outer, bound, rest, _, _ => by
    rw [writeEntries, List.nil_append, readMoreEntries, skipSpace_itemBreak_append,
      skipSpace_cons rfl]
    rfl
  | (key, value) :: more, level, outer, bound, rest, htextual, hbound => by
    obtain ⟨gap, hgap, hskip⟩ := exists_separator_eq indent level
    rw [haveTextual, Bool.and_eq_true] at htextual
    rw [writeEntries, hgap] at hbound ⊢
    simp only [List.cons_append, List.length_cons, List.length_append, List.append_assoc,
      List.nil_append] at hbound ⊢
    obtain ⟨bound, rfl⟩ : ∃ b, bound = b + 1 := Nat.exists_eq_add_one.2 (by omega)
    have hvalue := readValue_writeAt indent value level bound
      (writeEntries indent level more ++ (itemBreak indent outer ++ '\x7d' :: rest)) htextual.1
      (by omega)
    have hmore := readMoreEntries_writeEntries indent more level outer bound rest htextual.2
      (by omega)
    rw [← skipSpace_writeAt_append indent level htextual.1] at hvalue
    have hentries := readEntries_succ key (s := ' ' :: _) hvalue hmore
    rw [← skipSpace_cons (c := '"') rfl, ← hskip] at hentries
    rw [readMoreEntries, skipSpace_cons rfl, writeString_append]
    exact hentries

end

/-- A written value is read back. -/
theorem read?_write (indent : Option Int) {j : Json} (h : j.isTextual = true) :
    read? (j.write indent) = some j := by
  have hread := readValue_writeAt (indent.map Int.toNat) j 0
    (2 * (writeAt (indent.map Int.toNat) 0 j).length + 1) [] h (by omega)
  have hstart := skipSpace_writeAt_append (indent.map Int.toNat) 0 h []
  rw [List.append_nil] at hread hstart
  rw [read?, write, String.toList_ofList, hstart, hread]
  rfl

/-! ## ASCII -/

/-- The start of an item is ASCII. -/
theorem lt_of_mem_itemBreak {indent : Option Nat} {level : Nat} {c : Char}
    (h : c ∈ itemBreak indent level) : c.toNat < 128 := by
  cases indent with
  | none => cases h
  | some width =>
    rcases List.mem_cons.1 h with rfl | hc
    · decide
    · rw [List.eq_of_mem_replicate hc]
      decide

/-- A separator is ASCII. -/
theorem lt_of_mem_separator {indent : Option Nat} {level : Nat} {c : Char}
    (h : c ∈ separator indent level) : c.toNat < 128 := by
  cases indent with
  | none =>
    have hgap : c ∈ [',', ' '] := h
    exact lt_of_all (by decide) hgap
  | some width =>
    rcases List.mem_cons.1 h with rfl | hc
    · decide
    · exact lt_of_mem_itemBreak hc

mutual

/-- A written value is ASCII. -/
theorem lt_of_mem_writeAt (indent : Option Nat) : ∀ (j : Json) (level : Nat), j.isTextual = true →
    ∀ c ∈ writeAt indent level j, c.toNat < 128
  | scalar (.str s), level, _, c, hc => by
    rw [writeAt_str] at hc
    exact lt_of_mem_writeString hc
  | array [], level, _, c, hc => by
    rw [writeAt] at hc
    have hbrackets : c ∈ ['[', ']'] := hc
    exact lt_of_all (by decide) hbrackets
  | array (item :: more), level, htextual, c, hc => by
    rw [isTextual, areTextual, Bool.and_eq_true] at htextual
    rw [writeAt] at hc
    simp only [List.cons_append, List.append_assoc, List.mem_cons, List.mem_append,
      List.not_mem_nil, or_false] at hc
    rcases hc with rfl | hc | hc | hc | hc | rfl
    · decide
    · exact lt_of_mem_itemBreak hc
    · exact lt_of_mem_writeAt indent item _ htextual.1 c hc
    · exact lt_of_mem_writeItems indent more _ htextual.2 c hc
    · exact lt_of_mem_itemBreak hc
    · decide
  | object [], level, _, c, hc => by
    rw [writeAt] at hc
    have hbrackets : c ∈ ['\x7b', '\x7d'] := hc
    exact lt_of_all (by decide) hbrackets
  | object ((key, value) :: more), level, htextual, c, hc => by
    rw [isTextual, haveTextual, Bool.and_eq_true, Bool.and_eq_true] at htextual
    rw [writeAt] at hc
    simp only [List.cons_append, List.append_assoc, List.mem_cons, List.mem_append,
      List.not_mem_nil, or_false, List.nil_append] at hc
    rcases hc with rfl | hc | hc | rfl | rfl | hc | hc | hc | rfl
    · decide
    · exact lt_of_mem_itemBreak hc
    · exact lt_of_mem_writeString hc
    · decide
    · decide
    · exact lt_of_mem_writeAt indent value _ htextual.2.1 c hc
    · exact lt_of_mem_writeEntries indent more _ htextual.2.2 c hc
    · exact lt_of_mem_itemBreak hc
    · decide

/-- Written items are ASCII. -/
theorem lt_of_mem_writeItems (indent : Option Nat) : ∀ (items : List Json) (level : Nat),
    areTextual items = true → ∀ c ∈ writeItems indent level items, c.toNat < 128
  | [], _, _, c, hc => by
    rw [writeItems] at hc
    cases hc
  | item :: more, level, htextual, c, hc => by
    rw [areTextual, Bool.and_eq_true] at htextual
    simp only [writeItems, List.append_assoc, List.mem_append] at hc
    rcases hc with hc | hc | hc
    · exact lt_of_mem_separator hc
    · exact lt_of_mem_writeAt indent item _ htextual.1 c hc
    · exact lt_of_mem_writeItems indent more _ htextual.2 c hc

/-- Written entries are ASCII. -/
theorem lt_of_mem_writeEntries (indent : Option Nat) : ∀ (entries : List (String × Json))
    (level : Nat), haveTextual entries = true →
    ∀ c ∈ writeEntries indent level entries, c.toNat < 128
  | [], _, _, c, hc => by
    rw [writeEntries] at hc
    cases hc
  | (key, value) :: more, level, htextual, c, hc => by
    rw [haveTextual, Bool.and_eq_true] at htextual
    simp only [writeEntries, List.append_assoc, List.mem_append, List.cons_append, List.mem_cons,
      List.nil_append] at hc
    rcases hc with hc | hc | rfl | rfl | hc | hc
    · exact lt_of_mem_separator hc
    · exact lt_of_mem_writeString hc
    · decide
    · decide
    · exact lt_of_mem_writeAt indent value _ htextual.1 c hc
    · exact lt_of_mem_writeEntries indent more _ htextual.2 c hc

end

/-- The text of a value is ASCII. -/
theorem lt_of_mem_write (indent : Option Int) {j : Json} (h : j.isTextual = true) {c : Char}
    (hc : c ∈ (j.write indent).toList) : c.toNat < 128 := by
  rw [write, String.toList_ofList] at hc
  exact lt_of_mem_writeAt _ j 0 h c hc

end Json

end MarkupOutline
