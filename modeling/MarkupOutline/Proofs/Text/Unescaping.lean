import Mathlib.Logic.Function.Basic
import MarkupOutline.Proofs.Text.Escaping

/-!
# Reading escaped text

Escaping is undone in one pass from left to right: `unescape` puts a character in place of each of
the five references and keeps everything else. It reads the reference of a character whatever stands
behind it, so every text is read back from its escaped form.

Not every text is an escaped form. Those that are can be told by their characters (`IsEscaped`):
there is no angle bracket and no quote, and each ampersand begins one of the five references. Between
all texts and these, `escape` and `unescape` are inverse to each other (`escape_eq_iff`).
-/

namespace MarkupOutline.Text

/-- A text with the five references replaced, in one pass from left to right. An ampersand that
begins none of them is kept. -/
def unescape : List Char → List Char
  | '&' :: 'a' :: 'm' :: 'p' :: ';' :: rest => '&' :: unescape rest
  | '&' :: 'l' :: 't' :: ';' :: rest => '<' :: unescape rest
  | '&' :: 'g' :: 't' :: ';' :: rest => '>' :: unescape rest
  | '&' :: 'q' :: 'u' :: 'o' :: 't' :: ';' :: rest => '"' :: unescape rest
  | '&' :: '#' :: 'x' :: '2' :: '7' :: ';' :: rest => '\'' :: unescape rest
  | c :: rest => c :: unescape rest
  | [] => []

/-! ## One character -/

/-- The only ampersand of a reference is the one that it begins with. -/
theorem not_mem_of_mem_referenceNames : ∀ name ∈ referenceNames, '&' ∉ name.toList := by
  decide

/-- There is no ampersand in what is written for a character that is not special. -/
theorem not_mem_singleton_of_not_mem {c : Char} (h : c ∉ specials) : '&' ∉ [c] := fun hmem =>
  (not_mem_specials_iff.1 h).1 (List.mem_singleton.1 hmem).symm

/-- A character that is not an ampersand is kept. -/
theorem unescape_cons {c : Char} (h : c ≠ '&') (rest : List Char) :
    unescape (c :: rest) = c :: unescape rest := by
  rw [unescape.eq_def]
  split <;> simp_all

/-- What is written for a character is read as the character, whatever stands behind it. -/
theorem unescape_escapeChar_append (c : Char) (s : List Char) :
    unescape (escapeChar c ++ s) = c :: unescape s := by
  by_cases hc : c ∈ specials
  · revert c
    exact forall_mem_specials.2 ⟨rfl, rfl, rfl, rfl, rfl⟩
  · rw [escapeChar_of_not_mem hc, List.singleton_append,
      unescape_cons (not_mem_specials_iff.1 hc).1]

/-! ## Texts -/

/-- Escaped text is read as the text. -/
theorem unescape_escape (s : List Char) : unescape (escape s) = s := by
  induction s with
  | nil => rfl
  | cons c rest ih => rw [escape_cons, unescape_escapeChar_append, ih]

-- What has been read is not read again, and an ampersand that begins no reference is kept.
example : unescape "&amp;lt; & &copy; &#x27".toList = "&lt; & &copy; &#x27".toList := by decide

/-- Different texts are written differently, since both can be read back. -/
theorem escape_injective : Function.Injective escape :=
  Function.LeftInverse.injective unescape_escape

/-- Two texts are written alike exactly when they are equal. -/
theorem escape_inj {s t : List Char} : escape s = escape t ↔ s = t := escape_injective.eq_iff

/-- There are as many ampersands in an escaped text as special characters in the text, so no
reference is escaped again. -/
theorem count_escape (s : List Char) : (escape s).count '&' = s.countP (· ∈ specials) := by
  induction s with
  | nil => rfl
  | cons c rest ih =>
    rw [escape_cons, List.count_append, ih, List.countP_cons, Nat.add_comm]
    by_cases hc : c ∈ specials
    · obtain ⟨name, hmem, hname⟩ := escapeChar_of_mem c hc
      rw [hname, List.count_cons_self,
        List.count_eq_zero_of_not_mem (not_mem_of_mem_referenceNames name hmem),
        if_pos (decide_eq_true hc)]
    · rw [escapeChar_of_not_mem hc,
        List.count_eq_zero_of_not_mem (not_mem_singleton_of_not_mem hc), if_neg (by simpa using hc)]

/-! ## The look of escaped text -/

/-- A text as escaping writes it. -/
structure IsEscaped (t : List Char) : Prop where
  /-- No angle bracket and no quote occurs. -/
  plain : ∀ c ∈ t, c ∉ ['<', '>', '"', '\'']
  /-- Every ampersand begins one of the five references. -/
  reference : ∀ rest, '&' :: rest <:+ t → ∃ name ∈ referenceNames, name.toList <+: rest

/-- The end of an escaped text is escaped. -/
theorem IsEscaped.of_append {s t : List Char} (h : IsEscaped (s ++ t)) : IsEscaped t where
  plain c hc := h.plain c (List.mem_append_right s hc)
  reference rest hrest := h.reference rest (hrest.trans (List.suffix_append s t))

/-- A suffix that begins with a character lies behind whatever the character does not occur in. -/
theorem suffix_of_not_mem {c : Char} {rest t : List Char} :
    ∀ {s : List Char}, c ∉ s → c :: rest <:+ s ++ t → c :: rest <:+ t
  | [], _, h => h
  | d :: s, hc, h => by
    rw [List.mem_cons, not_or] at hc
    rcases List.suffix_cons_iff.1 h with heq | hbehind
    · exact absurd (List.cons.inj heq).1 hc.1
    · exact suffix_of_not_mem hc.2 hbehind

/-- What is written for a character can stand in front of an escaped text. -/
theorem IsEscaped.escapeChar_append {t : List Char} (h : IsEscaped t) (c : Char) :
    IsEscaped (escapeChar c ++ t) where
  plain d hd := by
    rcases List.mem_append.1 hd with hchar | hbehind
    · obtain ⟨hlt, hgt, hquot, hapos⟩ := not_mem_escapeChar c
      simp only [List.mem_cons, List.not_mem_nil, or_false]
      rintro (rfl | rfl | rfl | rfl)
      · exact hlt hchar
      · exact hgt hchar
      · exact hquot hchar
      · exact hapos hchar
    · exact h.plain d hbehind
  reference rest hrest := by
    by_cases hc : c ∈ specials
    · -- The first ampersand begins the reference itself, and every other one stands behind it.
      obtain ⟨name, hmem, hname⟩ := escapeChar_of_mem c hc
      rw [hname, List.cons_append] at hrest
      rcases List.suffix_cons_iff.1 hrest with heq | hbehind
      · rw [(List.cons.inj heq).2]
        exact ⟨name, hmem, List.prefix_append _ _⟩
      · exact h.reference rest
          (suffix_of_not_mem (not_mem_of_mem_referenceNames name hmem) hbehind)
    · rw [escapeChar_of_not_mem hc] at hrest
      exact h.reference rest (suffix_of_not_mem (not_mem_singleton_of_not_mem hc) hrest)

/-- Escaping writes escaped text. -/
theorem isEscaped_escape (s : List Char) : IsEscaped (escape s) := by
  induction s with
  | nil => exact ⟨by simp, by simp⟩
  | cons c rest ih =>
    rw [escape_cons]
    exact ih.escapeChar_append c

/-- Escaped text is written again as it was read. -/
theorem IsEscaped.escape_unescape {t : List Char} (h : IsEscaped t) : escape (unescape t) = t := by
  fun_induction unescape t with
  | case1 rest ih => rw [escape_cons, ih (h.of_append (s := "&amp;".toList))]; rfl
  | case2 rest ih => rw [escape_cons, ih (h.of_append (s := "&lt;".toList))]; rfl
  | case3 rest ih => rw [escape_cons, ih (h.of_append (s := "&gt;".toList))]; rfl
  | case4 rest ih => rw [escape_cons, ih (h.of_append (s := "&quot;".toList))]; rfl
  | case5 rest ih => rw [escape_cons, ih (h.of_append (s := "&#x27;".toList))]; rfl
  | case6 c rest hamp hlt hgt hquot hapos ih =>
    have hc : c ∉ specials := by
      intro hc
      rcases List.mem_cons.1 hc with rfl | hplain
      · -- An ampersand begins a reference, so one of the cases above applies.
        obtain ⟨name, hname, tail, rfl⟩ := h.reference rest List.suffix_rfl
        simp only [referenceNames, List.mem_cons, List.not_mem_nil, or_false] at hname
        rcases hname with rfl | rfl | rfl | rfl | rfl
        · exact hamp tail rfl rfl
        · exact hlt tail rfl rfl
        · exact hgt tail rfl rfl
        · exact hquot tail rfl rfl
        · exact hapos tail rfl rfl
      · exact h.plain c List.mem_cons_self hplain
    rw [escape_cons, escapeChar_of_not_mem hc, ih (h.of_append (s := [c]))]
    rfl
  | case7 => rfl

/-- A text is the escaped form of another exactly when it looks escaped and is read as the other. -/
theorem escape_eq_iff {s t : List Char} : escape s = t ↔ IsEscaped t ∧ unescape t = s := by
  constructor
  · rintro rfl
    exact ⟨isEscaped_escape s, unescape_escape s⟩
  · rintro ⟨hlook, rfl⟩
    exact hlook.escape_unescape

end MarkupOutline.Text
