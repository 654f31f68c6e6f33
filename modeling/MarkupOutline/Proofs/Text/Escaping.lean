import MarkupOutline.Proofs.Text.Trimming
import MarkupOutline.Text.Escape

/-!
# Escaping, character by character

The five replacements that make up `escape` do not interfere: together they replace each character
on its own (`escape_eq_flatMap`). Special characters are written as references and all others as they
stand, so what is known about the references, which are checked one by one, carries over to texts.
The written forms begin and end with visible characters unless the character itself is blank, so
escaping commutes with trimming.
-/

namespace MarkupOutline.Text

/-- How a single character of text content is written. -/
def escapeChar (c : Char) : List Char :=
  if c = '&' then "&amp;".toList
  else if c = '<' then "&lt;".toList
  else if c = '>' then "&gt;".toList
  else if c = '"' then "&quot;".toList
  else if c = '\'' then "&#x27;".toList
  else [c]

/-- The five characters that are written as references. -/
def specials : List Char := ['&', '<', '>', '"', '\'']

/-- The five references behind their ampersands. -/
def referenceNames : List String := ["amp;", "lt;", "gt;", "quot;", "#x27;"]

/-- What is true of each of the five is true of all special characters. -/
theorem forall_mem_specials {P : Char → Prop} :
    (∀ c ∈ specials, P c) ↔ P '&' ∧ P '<' ∧ P '>' ∧ P '"' ∧ P '\'' := by
  simp only [specials, List.forall_mem_cons, List.not_mem_nil, false_imp_iff, implies_true,
    and_true]

/-- A special character is written as a reference. -/
theorem escapeChar_of_mem :
    ∀ c ∈ specials, ∃ name ∈ referenceNames, escapeChar c = '&' :: name.toList :=
  forall_mem_specials.2 (by decide)

/-- A character that is not special is none of the five. -/
theorem not_mem_specials_iff {c : Char} :
    c ∉ specials ↔ c ≠ '&' ∧ c ≠ '<' ∧ c ≠ '>' ∧ c ≠ '"' ∧ c ≠ '\'' := by
  simp only [specials, List.mem_cons, List.not_mem_nil, or_false, not_or, ne_eq]

/-- Any other character is written as it stands. -/
theorem escapeChar_of_not_mem {c : Char} (h : c ∉ specials) : escapeChar c = [c] := by
  obtain ⟨hamp, hlt, hgt, hquot, hapos⟩ := not_mem_specials_iff.1 h
  rw [escapeChar, if_neg hamp, if_neg hlt, if_neg hgt, if_neg hquot, if_neg hapos]

/-- Escaping replaces each character on its own. -/
theorem escape_eq_flatMap (s : List Char) : escape s = s.flatMap escapeChar := by
  unfold escape replaceChar
  simp only [List.flatMap_assoc]
  congr 1
  funext c
  by_cases hc : c ∈ specials
  · revert c
    exact forall_mem_specials.2 (by decide)
  · obtain ⟨hamp, hlt, hgt, hquot, hapos⟩ := not_mem_specials_iff.1 hc
    rw [escapeChar_of_not_mem hc]
    simp only [hamp, hlt, hgt, hquot, hapos, if_false, List.flatMap_cons, List.flatMap_nil,
      List.append_nil]

/-- Nothing is written for the empty text. -/
@[simp] theorem escape_nil : escape [] = [] := rfl

/-- A text is written from its first character on. -/
theorem escape_cons (c : Char) (s : List Char) : escape (c :: s) = escapeChar c ++ escape s := by
  rw [escape_eq_flatMap, escape_eq_flatMap, List.flatMap_cons]

/-- Two texts are written one after the other. -/
@[simp] theorem escape_append (s t : List Char) : escape (s ++ t) = escape s ++ escape t := by
  rw [escape_eq_flatMap, escape_eq_flatMap, escape_eq_flatMap, List.flatMap_append]

/-- Something is written for every character. -/
theorem escapeChar_ne_nil (c : Char) : escapeChar c ≠ [] := by
  by_cases hc : c ∈ specials
  · obtain ⟨name, -, hname⟩ := escapeChar_of_mem c hc
    rw [hname]
    exact List.cons_ne_nil _ _
  · rw [escapeChar_of_not_mem hc]
    exact List.cons_ne_nil _ _

/-- Nothing is written only for the empty text. -/
theorem escape_eq_nil_iff {s : List Char} : escape s = [] ↔ s = [] := by
  cases s with
  | nil => simp
  | cons c rest => simp [escape_cons, escapeChar_ne_nil]

/-- The characters that mean something in markup are not written, the ampersand apart. -/
theorem not_mem_escapeChar (c : Char) :
    '<' ∉ escapeChar c ∧ '>' ∉ escapeChar c ∧ '"' ∉ escapeChar c ∧ '\'' ∉ escapeChar c := by
  have hreferences : ∀ c ∈ specials,
      '<' ∉ escapeChar c ∧ '>' ∉ escapeChar c ∧ '"' ∉ escapeChar c ∧ '\'' ∉ escapeChar c :=
    forall_mem_specials.2 (by decide)
  by_cases hc : c ∈ specials
  · exact hreferences c hc
  · obtain ⟨-, hlt, hgt, hquot, hapos⟩ := not_mem_specials_iff.1 hc
    rw [escapeChar_of_not_mem hc]
    simp only [List.mem_singleton]
    exact ⟨hlt.symm, hgt.symm, hquot.symm, hapos.symm⟩

/-- No tag begins inside of written text. -/
theorem not_mem_escape (s : List Char) : '<' ∉ escape s := by
  rw [escape_eq_flatMap, List.mem_flatMap]
  rintro ⟨c, -, hc⟩
  exact (not_mem_escapeChar c).1 hc

/-- A character that no reference contains is written only where it stands. -/
theorem eq_of_mem_escapeChar {c d : Char} (hd : d ∉ "&amp;lt;gt;quot;#x27;".toList)
    (h : d ∈ escapeChar c) : d = c := by
  have hreferences : ∀ c ∈ specials, escapeChar c ⊆ "&amp;lt;gt;quot;#x27;".toList :=
    forall_mem_specials.2 (by decide)
  by_cases hc : c ∈ specials
  · exact absurd (hreferences c hc h) hd
  · rw [escapeChar_of_not_mem hc] at h
    exact List.mem_singleton.1 h

/-- A character that no reference contains occurs in written text only if it occurs in the text. -/
theorem mem_of_mem_escape {d : Char} (hd : d ∉ "&amp;lt;gt;quot;#x27;".toList) {s : List Char}
    (h : d ∈ escape s) : d ∈ s := by
  rw [escape_eq_flatMap, List.mem_flatMap] at h
  obtain ⟨c, hc, hmem⟩ := h
  rwa [eq_of_mem_escapeChar hd hmem]

/-! ## Blank characters -/

/-- The special characters are visible. -/
theorem isBlank_of_mem_specials : ∀ c ∈ specials, isBlank c = false :=
  forall_mem_specials.2 (by decide)

/-- A blank character is written as itself. -/
theorem escapeChar_of_isBlank {c : Char} (h : isBlank c = true) : escapeChar c = [c] := by
  refine escapeChar_of_not_mem fun hc => ?_
  rw [isBlank_of_mem_specials c hc] at h
  cases h

/-- What is written for a visible character is trimmed. -/
theorem isTrimmed_escapeChar {c : Char} (h : isBlank c = false) : IsTrimmed (escapeChar c) := by
  have hreferences : ∀ c ∈ specials, IsTrimmed (escapeChar c) :=
    forall_mem_specials.2 (by decide)
  by_cases hc : c ∈ specials
  · exact hreferences c hc
  · rw [escapeChar_of_not_mem hc]
    simp [IsTrimmed, h]

/-- A blank text is written as itself. -/
theorem escape_of_allBlank {s : List Char} (h : allBlank s = true) : escape s = s := by
  induction s with
  | nil => rfl
  | cons c rest ih =>
    rw [allBlank_cons, Bool.and_eq_true] at h
    rw [escape_cons, escapeChar_of_isBlank h.1, ih h.2]
    rfl

/-- A text that begins visibly is written as one. -/
theorem startsVisibly_escape {s : List Char} (h : StartsVisibly s) : StartsVisibly (escape s) := by
  obtain ⟨c, rest, rfl, hc⟩ := h
  rw [escape_cons]
  exact ((isTrimmed_escapeChar hc).startsVisibly (escapeChar_ne_nil c)).append_right _

/-- A text that ends visibly is written as one. -/
theorem endsVisibly_escape {s : List Char} (h : EndsVisibly s) : EndsVisibly (escape s) := by
  obtain ⟨front, c, rfl, hc⟩ := h
  rw [escape_append, escape_cons, escape_nil, List.append_nil]
  exact ((isTrimmed_escapeChar hc).endsVisibly (escapeChar_ne_nil c)).append_left _

/-- A trimmed text is written as a trimmed text. -/
theorem isTrimmed_escape {s : List Char} (h : IsTrimmed s) : IsTrimmed (escape s) := by
  by_cases hs : s = []
  · rw [hs, escape_nil, ← hs]
    exact h
  · exact (startsVisibly_escape (h.startsVisibly hs)).isTrimmed
      (endsVisibly_escape (h.endsVisibly hs))

/-- Escaping commutes with trimming. -/
theorem trim_escape (s : List Char) : trim (escape s) = escape (trim s) := by
  obtain ⟨l, r, hs, hl, hr, ht⟩ := exists_append_trim s
  calc trim (escape s) = trim (escape (l ++ trim s ++ r)) := by rw [← hs]
    _ = trim (l ++ escape (trim s) ++ r) := by
      rw [escape_append, escape_append, escape_of_allBlank hl, escape_of_allBlank hr]
    _ = escape (trim s) := trim_eq_of_isTrimmed hl hr (isTrimmed_escape ht)

/-- A text is written as a blank text exactly when it is blank. -/
@[simp] theorem allBlank_escape (s : List Char) : allBlank (escape s) = allBlank s := by
  rw [Bool.eq_iff_iff, ← trim_eq_nil_iff, ← trim_eq_nil_iff, trim_escape, escape_eq_nil_iff]

end MarkupOutline.Text
