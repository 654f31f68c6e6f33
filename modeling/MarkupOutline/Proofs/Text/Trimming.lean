import Mathlib.Data.List.DropRight
import MarkupOutline.Text.Blank

/-!
# What trimming takes away

Trimming takes blank characters off the two ends of a text and stops at the first visible one on
each side. `trim_eq_of_isTrimmed` says this in the form that the layout needs: a text that is
visible at both ends comes out of any blank surroundings unchanged. `visible` keeps the visible
characters only; two texts with the same visible characters differ in white space alone.
-/

namespace MarkupOutline.Text

/-! ## Blank texts -/

/-- The empty text is blank. -/
@[simp] theorem allBlank_nil : allBlank [] = true := rfl

/-- A text is blank when its first character and the rest are. -/
@[simp] theorem allBlank_cons (c : Char) (s : List Char) :
    allBlank (c :: s) = (isBlank c && allBlank s) := rfl

/-- Two texts together are blank when both are. -/
@[simp] theorem allBlank_append (s t : List Char) :
    allBlank (s ++ t) = (allBlank s && allBlank t) := by
  simp [allBlank]

/-- A text is blank when all its characters are. -/
theorem allBlank_iff (s : List Char) : allBlank s = true ↔ ∀ c ∈ s, isBlank c = true := by
  simp [allBlank]

/-! ## Trimmed texts -/

/-- A text that has no blank character at either end. -/
def IsTrimmed (s : List Char) : Prop :=
  (∀ c ∈ s.head?, isBlank c = false) ∧ ∀ c ∈ s.getLast?, isBlank c = false

instance (s : List Char) : Decidable (IsTrimmed s) :=
  decidable_of_iff (s.head?.all (!isBlank ·) && s.getLast?.all (!isBlank ·))
    (by simp [IsTrimmed, Option.all_eq_true])

/-- The end of a text is trimmed by dropping blank characters from the right. -/
theorem trimEnd_eq_rdropWhile (s : List Char) : trimEnd s = s.rdropWhile isBlank := by
  induction s with
  | nil => rfl
  | cons c rest ih =>
    rw [trimEnd, ih, List.rdropWhile, List.rdropWhile, List.reverse_cons, List.dropWhile_append]
    by_cases h : (rest.reverse.dropWhile isBlank).isEmpty
    · -- Everything behind the first character is blank, so that character decides.
      rw [if_pos h, List.isEmpty_iff.1 h]
      by_cases hc : isBlank c <;> simp [hc]
    · rw [if_neg h, List.reverse_append]
      cases hrev : (rest.reverse.dropWhile isBlank).reverse with
      | nil =>
        rw [List.reverse_eq_nil_iff] at hrev
        rw [hrev] at h
        simp at h
      | cons d kept => rfl

/-- Blank characters behind a text that ends visibly are trimmed away. -/
theorem trimEnd_append (s r : List Char) (hs : ∀ c ∈ s.getLast?, isBlank c = false)
    (hr : allBlank r = true) : trimEnd (s ++ r) = s := by
  rw [allBlank_iff] at hr
  have hrev : ∀ c ∈ r.reverse, isBlank c = true := by simpa using hr
  rw [trimEnd_eq_rdropWhile, List.rdropWhile, List.reverse_append,
    List.dropWhile_append_of_pos hrev]
  rcases List.eq_nil_or_concat s with rfl | ⟨front, c, rfl⟩
  · rfl
  · have hc : isBlank c = false := hs c (by simp)
    simp [hc]

/-- A text that is visible at both ends comes out of blank surroundings unchanged. -/
theorem trim_eq_of_isTrimmed {l t r : List Char} (hl : allBlank l = true) (hr : allBlank r = true)
    (ht : IsTrimmed t) : trim (l ++ t ++ r) = t := by
  rw [allBlank_iff] at hl
  rw [trim, trimStart, List.append_assoc, List.dropWhile_append_of_pos hl]
  cases t with
  | nil =>
    rw [allBlank_iff] at hr
    rw [List.nil_append, List.dropWhile_eq_nil_iff.2 hr]
    rfl
  | cons c rest =>
    have hc : isBlank c = false := ht.1 c (by simp)
    rw [List.cons_append, List.dropWhile_cons, if_neg (by simp [hc]), ← List.cons_append]
    exact trimEnd_append _ _ ht.2 hr

/-- A trimmed text is not changed by trimming. -/
theorem trim_of_isTrimmed {t : List Char} (ht : IsTrimmed t) : trim t = t := by
  simpa using trim_eq_of_isTrimmed (l := []) (r := []) rfl rfl ht

/-- A text is its trimmed form between two blank texts. -/
theorem exists_append_trim (s : List Char) :
    ∃ l r, s = l ++ trim s ++ r ∧ allBlank l = true ∧ allBlank r = true ∧ IsTrimmed (trim s) := by
  have hsplit : s = s.takeWhile isBlank ++ trimStart s := by
    rw [trimStart, List.takeWhile_append_dropWhile]
  have hfront : allBlank (s.takeWhile isBlank) = true := by
    rw [allBlank_iff]
    exact fun c hc => List.mem_takeWhile_imp hc
  have hback : trimStart s = trim s ++ (trimStart s).rtakeWhile isBlank := by
    rw [trim, trimEnd_eq_rdropWhile, List.rdropWhile_append_rtakeWhile]
  have hrest : allBlank ((trimStart s).rtakeWhile isBlank) = true := by
    rw [allBlank_iff]
    exact fun c hc => List.mem_rtakeWhile_imp hc
  refine ⟨_, _, ?_, hfront, hrest, ?_, ?_⟩
  · calc s = s.takeWhile isBlank ++ trimStart s := hsplit
      _ = s.takeWhile isBlank ++ (trim s ++ (trimStart s).rtakeWhile isBlank) := by rw [← hback]
      _ = s.takeWhile isBlank ++ trim s ++ (trimStart s).rtakeWhile isBlank :=
        (List.append_assoc ..).symm
  · -- The first character kept is the first of what remains in front of trimming the end.
    intro c hc
    have hstart : (trimStart s).head? = some c := by
      rw [hback]
      cases htrim : trim s with
      | nil => simp [htrim] at hc
      | cons d rest => simpa [htrim] using hc
    rw [trimStart] at hstart
    have := List.head?_dropWhile_not isBlank s
    rw [hstart] at this
    simpa using this
  · intro c hc
    rw [trim, trimEnd_eq_rdropWhile] at hc
    by_cases hnil : (trimStart s).rdropWhile isBlank = []
    · simp [hnil] at hc
    · rw [List.getLast?_eq_some_getLast hnil, Option.mem_some_iff] at hc
      have := List.rdropWhile_last_not isBlank (trimStart s) hnil
      rw [hc] at this
      simpa using this

/-- The trimmed form of a text is trimmed. -/
theorem isTrimmed_trim (s : List Char) : IsTrimmed (trim s) := by
  obtain ⟨_, _, -, -, -, h⟩ := exists_append_trim s
  exact h

/-- Trimming only removes characters. -/
theorem mem_of_mem_trim {s : List Char} {c : Char} (h : c ∈ trim s) : c ∈ s := by
  obtain ⟨l, r, hs, -⟩ := exists_append_trim s
  rw [hs]
  simp [h]

/-- White space behind a text is trimmed away. -/
theorem trim_append_blank (s : List Char) {b : List Char} (hb : allBlank b = true) :
    trim (s ++ b) = trim s := by
  obtain ⟨l, r, hs, hl, hr, ht⟩ := exists_append_trim s
  have hback : allBlank (r ++ b) = true := by rw [allBlank_append, hr, hb]; rfl
  calc trim (s ++ b) = trim (l ++ trim s ++ (r ++ b)) := by rw [← List.append_assoc, ← hs]
    _ = trim s := trim_eq_of_isTrimmed hl hback ht

/-- A text is trimmed away entirely exactly when it is blank. -/
theorem trim_eq_nil_iff (s : List Char) : trim s = [] ↔ allBlank s = true := by
  obtain ⟨l, r, hs, hl, hr, ht⟩ := exists_append_trim s
  constructor
  · intro h
    rw [hs, h]
    simp [hl, hr]
  · intro h
    rw [hs] at h
    simp only [allBlank_append, Bool.and_eq_true] at h
    cases htrim : trim s with
    | nil => rfl
    | cons c rest =>
      have hc : isBlank c = false := ht.1 c (by simp [htrim])
      rw [htrim] at h
      simp [hc] at h

/-! ## Visible ends -/

/-- A text begins with a visible character. -/
def StartsVisibly (s : List Char) : Prop := ∃ c rest, s = c :: rest ∧ isBlank c = false

/-- A text ends with a visible character. -/
def EndsVisibly (s : List Char) : Prop := ∃ front c, s = front ++ [c] ∧ isBlank c = false

/-- A text that is visible at both ends is trimmed. -/
theorem StartsVisibly.isTrimmed {s : List Char} (hs : StartsVisibly s) (ht : EndsVisibly s) :
    IsTrimmed s := by
  obtain ⟨c, rest, rfl, hc⟩ := hs
  obtain ⟨front, d, heq, hd⟩ := ht
  refine ⟨by simpa using hc, ?_⟩
  rw [heq]
  simpa using hd

/-- A trimmed text is visible at its start, unless it is empty. -/
theorem IsTrimmed.startsVisibly {s : List Char} (h : IsTrimmed s) (hs : s ≠ []) :
    StartsVisibly s := by
  obtain ⟨c, rest, rfl⟩ := List.exists_cons_of_ne_nil hs
  exact ⟨c, rest, rfl, h.1 c rfl⟩

/-- A trimmed text is visible at its end, unless it is empty. -/
theorem IsTrimmed.endsVisibly {s : List Char} (h : IsTrimmed s) (hs : s ≠ []) : EndsVisibly s := by
  obtain ⟨front, c, rfl⟩ := (List.eq_nil_or_concat s).resolve_left hs
  rw [List.concat_eq_append] at h ⊢
  exact ⟨front, c, rfl, h.2 c (by simp)⟩

/-- A text ends visibly if what stands at its end does. -/
theorem EndsVisibly.append_left {s : List Char} (hs : EndsVisibly s) (t : List Char) :
    EndsVisibly (t ++ s) := by
  obtain ⟨front, c, rfl, hc⟩ := hs
  exact ⟨t ++ front, c, (List.append_assoc ..).symm, hc⟩

/-- What stands at the end of a text that ends visibly does so, too, unless there is nothing. -/
theorem EndsVisibly.of_append {s t : List Char} (h : EndsVisibly (t ++ s)) (hs : s ≠ []) :
    EndsVisibly s := by
  obtain ⟨front, c, heq, hc⟩ := h
  obtain ⟨front', d, rfl⟩ := (List.eq_nil_or_concat s).resolve_left hs
  rw [List.concat_eq_append, ← List.append_assoc] at heq
  obtain ⟨-, hcd⟩ := List.append_inj' heq rfl
  obtain rfl := (List.cons.inj hcd).1
  exact ⟨front', d, List.concat_eq_append, hc⟩

/-- A text begins visibly if what stands at its start does. -/
theorem StartsVisibly.append_right {s : List Char} (hs : StartsVisibly s) (t : List Char) :
    StartsVisibly (s ++ t) := by
  obtain ⟨c, rest, rfl, hc⟩ := hs
  exact ⟨c, rest ++ t, rfl, hc⟩

/-- What stands at the start of a text that begins visibly does so, too, unless there is nothing. -/
theorem StartsVisibly.of_append {s t : List Char} (h : StartsVisibly (s ++ t)) (hs : s ≠ []) :
    StartsVisibly s := by
  obtain ⟨c, rest, rfl⟩ := List.exists_cons_of_ne_nil hs
  obtain ⟨d, rest', heq, hd⟩ := h
  obtain ⟨rfl, -⟩ := List.cons.inj heq
  exact ⟨c, rest, rfl, hd⟩

/-- A text that begins visibly is not blank. -/
theorem StartsVisibly.allBlank_eq {s : List Char} (hs : StartsVisibly s) : allBlank s = false := by
  obtain ⟨c, rest, rfl, hc⟩ := hs
  rw [allBlank_cons, hc, Bool.false_and]

/-- A text that ends visibly is not blank. -/
theorem EndsVisibly.allBlank_eq {s : List Char} (hs : EndsVisibly s) : allBlank s = false := by
  obtain ⟨front, c, rfl, hc⟩ := hs
  rw [allBlank_append, allBlank_cons, hc, Bool.false_and, Bool.and_false]

/-- A text is what is left of it behind white space at its start, which is visible there or
nothing. -/
theorem exists_append_trimStart (s : List Char) :
    ∃ l, s = l ++ trimStart s ∧ allBlank l = true ∧
      (trimStart s = [] ∨ StartsVisibly (trimStart s)) := by
  refine ⟨s.takeWhile isBlank, List.takeWhile_append_dropWhile.symm, ?_, ?_⟩
  · rw [allBlank_iff]
    exact fun c hc => List.mem_takeWhile_imp hc
  · cases hrest : trimStart s with
    | nil => exact .inl rfl
    | cons c rest =>
      refine .inr ⟨c, rest, rfl, ?_⟩
      have hhead := List.head?_dropWhile_not isBlank s
      rw [← trimStart, hrest] at hhead
      simpa using hhead

/-- A text is what is left of it in front of white space at its end, which is visible there or
nothing. -/
theorem exists_append_trimEnd (s : List Char) :
    ∃ r, s = trimEnd s ++ r ∧ allBlank r = true ∧ (trimEnd s = [] ∨ EndsVisibly (trimEnd s)) := by
  rw [trimEnd_eq_rdropWhile]
  refine ⟨s.rtakeWhile isBlank, (List.rdropWhile_append_rtakeWhile ..).symm, ?_, ?_⟩
  · rw [allBlank_iff]
    exact fun c hc => List.mem_rtakeWhile_imp hc
  · by_cases hnil : s.rdropWhile isBlank = []
    · exact .inl hnil
    · have hlast := List.rdropWhile_last_not isBlank s hnil
      exact .inr ⟨_, _, (List.dropLast_append_getLast hnil).symm, by simpa using hlast⟩

/-- White space in front of a text is trimmed away. -/
theorem trim_blank_append {b : List Char} (hb : allBlank b = true) (s : List Char) :
    trim (b ++ s) = trim s := by
  rw [allBlank_iff] at hb
  rw [trim, trim, trimStart, trimStart, List.dropWhile_append_of_pos hb]

/-- Trimming does not reach a text that is visible at both ends. -/
theorem exists_trim_append {s : List Char} (hstart : StartsVisibly s) (hend : EndsVisibly s)
    (front back : List Char) :
    ∃ front' back', trim (front ++ s ++ back) = front' ++ s ++ back' := by
  obtain ⟨l, hfront, hl, hfirst⟩ := exists_append_trimStart front
  obtain ⟨r, hback, hr, hlast⟩ := exists_append_trimEnd back
  refine ⟨trimStart front, trimEnd back, ?_⟩
  have hstarts : StartsVisibly (trimStart front ++ s ++ trimEnd back) := by
    refine StartsVisibly.append_right ?_ _
    rcases hfirst with hnil | hvisible
    · rw [hnil]
      exact hstart
    · exact hvisible.append_right s
  have hends : EndsVisibly (trimStart front ++ s ++ trimEnd back) := by
    rcases hlast with hnil | hvisible
    · rw [hnil, List.append_nil]
      exact hend.append_left _
    · exact hvisible.append_left _
  have hall : front ++ s ++ back = l ++ (trimStart front ++ s ++ trimEnd back) ++ r := by
    conv_lhs => rw [hfront, hback]
    simp only [List.append_assoc]
  rw [hall, trim_eq_of_isTrimmed hl hr (hstarts.isTrimmed hends)]

/-! ## Visible characters -/

/-- The visible characters of a text. -/
def visible (s : List Char) : List Char := s.filter fun c => !isBlank c

/-- Nothing is visible in the empty text. -/
@[simp] theorem visible_nil : visible [] = [] := rfl

/-- What is visible in two texts one after the other. -/
@[simp] theorem visible_append (s t : List Char) : visible (s ++ t) = visible s ++ visible t := by
  simp [visible]

/-- What is visible in a text, character by character. -/
theorem visible_cons (c : Char) (s : List Char) :
    visible (c :: s) = if isBlank c then visible s else c :: visible s := by
  by_cases h : isBlank c <;> simp [visible, h]

/-- Nothing is visible in a text exactly when it is blank. -/
theorem visible_eq_nil_iff (s : List Char) : visible s = [] ↔ allBlank s = true := by
  simp [visible, allBlank_iff, List.filter_eq_nil_iff]

/-- Trimming changes nothing visible. -/
@[simp] theorem visible_trim (s : List Char) : visible (trim s) = visible s := by
  obtain ⟨l, r, hs, hl, hr, -⟩ := exists_append_trim s
  conv_rhs => rw [hs]
  rw [visible_append, visible_append, (visible_eq_nil_iff l).2 hl, (visible_eq_nil_iff r).2 hr]
  simp

/-- Trimming the start of a text changes nothing visible. -/
@[simp] theorem visible_trimStart (s : List Char) : visible (trimStart s) = visible s := by
  have hfront : allBlank (s.takeWhile isBlank) = true := by
    rw [allBlank_iff]
    exact fun c hc => List.mem_takeWhile_imp hc
  conv_rhs => rw [← List.takeWhile_append_dropWhile (p := isBlank) (l := s)]
  rw [visible_append, (visible_eq_nil_iff _).2 hfront, List.nil_append]
  rfl

end MarkupOutline.Text
