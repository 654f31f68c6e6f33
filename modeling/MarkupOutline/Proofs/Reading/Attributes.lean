import MarkupOutline.Proofs.Reading.Placed
import MarkupOutline.Proofs.Render.Parts
import MarkupOutline.Proofs.Text.References

/-!
# Attributes read back

The values of attributes are written as they stand, and references in them are replaced when they
are read. A value that this changes is written differently afterwards: it has not become longer, so
what is written for it is no continuation of what was written before. Lists of attributes are
therefore written alike only if reading has changed none of them (`attributeList_reread_inj`).
-/

namespace MarkupOutline.Layout

open Html

variable {o : Options}

/-- A value does not get longer, and stays one, when it is read back. -/
theorem length_valueOf (s : List Char) :
    (Token.valueOf s).toList.length ≤ s.length ∧ ((Token.valueOf s).toList = [] ↔ s = []) := by
  rw [Token.valueOf, String.toList_ofList, List.length_map, List.map_eq_nil_iff]
  refine ⟨Reference.length_decodeAfter_le true 0 s, ?_, ?_⟩
  · intro hnil
    by_contra hs
    exact Reference.decode_ne_nil true hs hnil
  · rintro rfl
    rfl

/-- Two texts in front of a closing quote are the same if they are written alike, the second has no
quote in it, and the first is not longer. -/
theorem eq_of_append_quote {w v r s : List Char} (hv : '"' ∉ v) (hlength : w.length ≤ v.length)
    (h : w ++ '"' :: r = v ++ '"' :: s) : w = v ∧ r = s := by
  rcases List.append_eq_append_iff.1 h with ⟨t, hvt, hrest⟩ | ⟨t, hwt, hrest⟩
  · cases t with
    | nil =>
      rw [List.append_nil] at hvt
      exact ⟨hvt.symm, (List.cons.inj hrest).2⟩
    | cons c t =>
      obtain ⟨rfl, -⟩ := List.cons.inj hrest
      exact absurd (by simp [hvt]) hv
  · -- The text without quotes cannot end earlier.
    have ht : t = [] := by
      rw [hwt, List.length_append] at hlength
      exact List.eq_nil_of_length_eq_zero (by omega)
    rw [ht, List.append_nil] at hwt
    rw [ht, List.nil_append] at hrest
    exact ⟨hwt, (List.cons.inj hrest).2.symm⟩

/-- The value of an attribute is written alike only if reading has not changed it. -/
theorem valuePart_reread_append_inj {v : String} (hv : '"' ∉ v.toList) {r s : List Char}
    (h : valuePart o (Token.valueOf v.toList).toList ++ r = valuePart o v.toList ++ s) :
    Token.valueOf v.toList = v ∧ r = s := by
  obtain ⟨hlength, hnil⟩ := length_valueOf v.toList
  have hparts : valuePart o (Token.valueOf v.toList).toList ++ r = valuePart o v.toList ++ s →
      (Token.valueOf v.toList).toList = v.toList ∧ r = s := by
    generalize (Token.valueOf v.toList).toList = w at hlength hnil
    intro h
    by_cases hempty : v.toList = []
    · rw [hempty] at h ⊢
      rw [hnil.2 hempty] at h ⊢
      exact ⟨rfl, List.append_cancel_left h⟩
    · have hquoted : ∀ u : List Char, u ≠ [] → valuePart o u = '=' :: '"' :: u ++ ['"'] := by
        intro u hu
        rw [valuePart, if_pos (by simp [hu])]
      rw [hquoted w (mt hnil.1 hempty), hquoted _ hempty] at h
      refine eq_of_append_quote hv hlength ?_
      simpa using h
  obtain ⟨heq, hrest⟩ := hparts h
  exact ⟨String.toList_inj.1 heq, hrest⟩

/-- Attributes are written alike, one after the other, only if reading has changed none of them. -/
theorem attributeTexts_reread_append_inj {gap : List Char} {as : List (String × String)}
    (has : as.all isSteadyAttribute = true) {r s : List Char}
    (h : (attributeTexts o (as.map rereadAttribute)).flatMap (gap ++ ·) ++ r =
      (attributeTexts o as).flatMap (gap ++ ·) ++ s) : as.map rereadAttribute = as := by
  induction as with
  | nil => rfl
  | cons a more ih =>
    rw [List.all_cons, Bool.and_eq_true] at has
    have hquote : '"' ∉ a.2.toList := by
      have hsteady := has.1
      simp only [isSteadyAttribute, Bool.and_eq_true, List.all_eq_true, decide_eq_true_eq]
        at hsteady
      exact fun hmem => (hsteady.2 _ hmem).1 rfl
    have hname : (rereadAttribute a).1 = a.1 := rfl
    simp only [attributeTexts, List.map_cons, List.flatMap_cons, List.append_assoc,
      attributeText_eq, hname, List.append_cancel_left_eq] at h ih
    obtain ⟨hvalue, hrest⟩ := valuePart_reread_append_inj hquote h
    rw [List.map_cons, ih has.2 hrest, rereadAttribute, hvalue]

/-- What follows the name of an open tag is written alike only if reading has changed no value. -/
theorem attributeList_reread_inj {indent : Int} {closed closed' : Bool}
    {as : List (String × String)} (has : as.all isSteadyAttribute = true) {r s : List Char}
    (h : attributeList o indent closed (attributeTexts o (as.map rereadAttribute)) ++ r =
      attributeList o indent closed' (attributeTexts o as) ++ s) : as.map rereadAttribute = as := by
  rw [attributeList_eq, attributeList_eq, List.length_map, List.append_assoc, List.append_assoc]
    at h
  exact attributeTexts_reread_append_inj has h

end MarkupOutline.Layout
