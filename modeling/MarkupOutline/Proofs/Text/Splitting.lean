import Mathlib.Data.List.Infix
import Mathlib.Data.List.TakeWhile

/-!
# Where a text can be cut

Two ways of finding the end of a part of a text. A part that consists of characters of one class
ends at the first character of another class (`append_inj_of_stops`). The payload of a comment ends
at the first closing delimiter, provided that the delimiter does not occur inside of it and cannot
begin in it either (`append_arrow_inj`).
-/

namespace MarkupOutline.Text

variable {p : Char → Bool}

/-! ## Classes of characters -/

/-- A text that is empty or begins outside of a class of characters. -/
def Stops (p : Char → Bool) (s : List Char) : Prop := ∀ c ∈ s.head?, p c = false

/-- A text that begins with a character outside of the class stops. -/
theorem stops_cons {c : Char} (hc : p c = false) (s : List Char) : Stops p (c :: s) := by
  intro d hd
  have : d = c := by simpa using hd.symm
  rw [this, hc]

/-- The part of a text up to the end of a class of characters. -/
theorem takeWhile_append_of_stops {a r : List Char} (ha : ∀ c ∈ a, p c = true) (hr : Stops p r) :
    (a ++ r).takeWhile p = a := by
  rw [List.takeWhile_append_of_pos ha]
  cases r with
  | nil => simp
  | cons c rest =>
    have hc : p c = false := hr c (by simp)
    simp [hc]

/-- What follows the part of a text up to the end of a class of characters. -/
theorem dropWhile_append_of_stops {a r : List Char} (ha : ∀ c ∈ a, p c = true) (hr : Stops p r) :
    (a ++ r).dropWhile p = r := by
  rw [List.dropWhile_append_of_pos ha]
  cases r with
  | nil => rfl
  | cons c rest =>
    have hc : p c = false := hr c (by simp)
    simp [hc]

/-- A text can be cut at the end of a class of characters in one way only. -/
theorem append_inj_of_stops {a b r s : List Char} (ha : ∀ c ∈ a, p c = true)
    (hb : ∀ c ∈ b, p c = true) (hr : Stops p r) (hs : Stops p s) (h : a ++ r = b ++ s) :
    a = b ∧ r = s := by
  constructor
  · rw [← takeWhile_append_of_stops ha hr, h, takeWhile_append_of_stops hb hs]
  · rw [← dropWhile_append_of_stops ha hr, h, dropWhile_append_of_stops hb hs]

/-! ## Comment delimiters -/

/-- The closing delimiter of a comment. -/
def arrow : List Char := ['-', '-', '>']

/-- A text in which no closing delimiter occurs, and at the end of which none begins. -/
structure NoArrow (s : List Char) : Prop where
  not_infix : ¬ arrow <:+: s
  not_last : s.getLast? ≠ some '-'

/-- The rest of a text without closing delimiter has none. -/
theorem NoArrow.tail {c : Char} {s : List Char} (h : NoArrow (c :: s)) : NoArrow s := by
  refine ⟨fun hs => h.not_infix (List.infix_cons hs), ?_⟩
  cases s with
  | nil => simp
  | cons d rest => exact h.not_last

/-- Behind a text without closing delimiter, no closing delimiter begins earlier. -/
theorem NoArrow.ne_arrow_append {c : Char} {s r t : List Char} (h : NoArrow (c :: s)) :
    c :: s ++ arrow ++ r ≠ arrow ++ t := by
  intro heq
  match s, h with
  | [], h =>
    -- A single dash would end the text.
    have : c = '-' := by simpa [arrow] using (List.cons.inj heq).1
    exact h.not_last (by simp [this])
  | [d], h =>
    have : d = '-' := by simpa [arrow] using (List.cons.inj (List.cons.inj heq).2).1
    exact h.not_last (by simp [this])
  | d :: e :: rest, h =>
    have hc : c = '-' := (List.cons.inj heq).1
    have hd : d = '-' := (List.cons.inj (List.cons.inj heq).2).1
    have he : e = '>' := (List.cons.inj (List.cons.inj (List.cons.inj heq).2).2).1
    subst hc hd he
    exact h.not_infix ⟨[], rest, rfl⟩

/-- A text can be cut at the first closing delimiter in one way only. -/
theorem append_arrow_inj : ∀ {a b r s : List Char}, NoArrow a → NoArrow b →
    a ++ arrow ++ r = b ++ arrow ++ s → a = b ∧ r = s
  | [], [], _, _, _, _, h => ⟨rfl, List.append_cancel_left h⟩
  | [], _ :: _, _, _, _, hb, h => absurd h.symm hb.ne_arrow_append
  | _ :: _, [], _, _, ha, _, h => absurd h ha.ne_arrow_append
  | c :: a, d :: b, _, _, ha, hb, h => by
    obtain ⟨rfl, hrest⟩ := List.cons.inj h
    obtain ⟨rfl, hrs⟩ := append_arrow_inj ha.tail hb.tail hrest
    exact ⟨rfl, hrs⟩

end MarkupOutline.Text
