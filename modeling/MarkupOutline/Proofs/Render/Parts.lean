import Mathlib.Tactic.Common
import MarkupOutline.Proofs.Text.Splitting
import MarkupOutline.Proofs.Text.Trimming
import MarkupOutline.Render.Layout

/-!
# Reading the parts of a node

The parts of a node can be read back from the outline. The attributes of a tag end at its bracket:
a name ends at the first character that is not part of names, a value at the first double
quote, and what separates attributes from each other differs from what stands in front of the
bracket. These are the facts behind `append_inj` lemmas, which say that two texts with equal
outlines have equal parts and equal rests.
-/

namespace MarkupOutline.Layout

open Text

/-! ## Attributes -/

/-- The characters of ordinary names. -/
def isNameChar (c : Char) : Bool := c.isAlphanum || c = '-' || c = '_' || c = ':'

/-- Whether a text is an ordinary name. -/
def isName (s : String) : Bool := !s.isEmpty && s.toList.all isNameChar

/-- Whether an attribute has an ordinary name and a value that does not end early. -/
def isPlainAttribute (a : String × String) : Bool := isName a.1 && !a.2.toList.contains '"'

/-- Names consist of name characters. -/
theorem isNameChar_of_mem {s : String} (h : isName s = true) :
    ∀ c ∈ s.toList, isNameChar c = true := by
  rw [isName, Bool.and_eq_true, List.all_eq_true] at h
  exact h.2

/-- The first character of a name and the others. -/
theorem exists_cons_of_isName {s : String} (h : isName s = true) :
    ∃ c rest, s.toList = c :: rest ∧ isNameChar c = true ∧ ∀ d ∈ rest, isNameChar d = true := by
  have hall := isNameChar_of_mem h
  rw [isName, Bool.and_eq_true] at h
  obtain ⟨hne, -⟩ := h
  cases hs : s.toList with
  | nil =>
    rw [String.toList_eq_nil_iff] at hs
    simp [hs] at hne
  | cons c rest =>
    rw [hs] at hall
    exact ⟨c, rest, rfl, hall c (by simp), fun d hd => hall d (by simp [hd])⟩

/-- What is written behind the name of an attribute. -/
def valuePart (o : Options) (value : List Char) : List Char :=
  if !value.isEmpty || o.emptyAttributes then '=' :: '"' :: value ++ ['"'] else []

/-- An attribute is written as its name and its value. -/
theorem attributeText_eq (o : Options) (name value : List Char) :
    attributeText o name value = name ++ valuePart o value := by
  unfold attributeText valuePart
  split
  · simp
  · simp

/-- A text that cannot go on with an attribute. -/
def EndsAttribute (s : List Char) : Prop := Stops isNameChar s ∧ ∀ c ∈ s.head?, c ≠ '='

/-- A text that begins with another character cannot go on with an attribute. -/
theorem endsAttribute_cons {c : Char} (hname : isNameChar c = false) (hc : c ≠ '=')
    (s : List Char) : EndsAttribute (c :: s) := by
  refine ⟨stops_cons hname s, ?_⟩
  intro d hd
  have : d = c := by simpa using hd.symm
  rw [this]
  exact hc

/-- Equal values are read from equal texts. -/
theorem valuePart_append_inj (o : Options) {v w r s : List Char} (hv : '"' ∉ v) (hw : '"' ∉ w)
    (hr : EndsAttribute r) (hs : EndsAttribute s) (h : valuePart o v ++ r = valuePart o w ++ s) :
    v = w ∧ r = s := by
  have inside : ∀ {u : List Char}, '"' ∉ u → ∀ c ∈ u, (c != '"') = true := by
    intro u hu c hc
    rw [bne_iff_ne]
    rintro rfl
    exact hu hc
  have behind : ∀ t, Stops (· != '"') ('"' :: t) := fun t => stops_cons (by decide) t
  unfold valuePart at h
  split at h <;> split at h
  · have hcut : v ++ '"' :: r = w ++ '"' :: s := by simpa using h
    obtain ⟨rfl, hrest⟩ := append_inj_of_stops (inside hv) (inside hw) (behind r) (behind s) hcut
    exact ⟨rfl, (List.cons.inj hrest).2⟩
  · -- A value on one side only would begin with an equals sign.
    have hhead : s.head? = some '=' := by rw [List.nil_append] at h; rw [← h]; rfl
    exact absurd rfl (hs.2 '=' hhead)
  · have hhead : r.head? = some '=' := by rw [List.nil_append] at h; rw [h]; rfl
    exact absurd rfl (hr.2 '=' hhead)
  · next hvbare hwbare =>
    -- Neither value is written, so both are empty.
    have hvnil : v = [] := by simp_all
    have hwnil : w = [] := by simp_all
    exact ⟨hvnil.trans hwnil.symm, h⟩

/-- What is written behind the name of an attribute does not go on with the name. -/
theorem stops_valuePart (o : Options) (v : List Char) {r : List Char} (hr : EndsAttribute r) :
    Stops isNameChar (valuePart o v ++ r) := by
  unfold valuePart
  split
  · exact stops_cons (by decide) _
  · exact hr.1

/-- Equal attributes are read from equal texts. -/
theorem attributeText_append_inj (o : Options) {a b : String × String} {r s : List Char}
    (ha : isPlainAttribute a = true) (hb : isPlainAttribute b = true) (hr : EndsAttribute r)
    (hs : EndsAttribute s)
    (h : attributeText o a.1.toList a.2.toList ++ r = attributeText o b.1.toList b.2.toList ++ s) :
    a = b ∧ r = s := by
  simp only [isPlainAttribute, Bool.and_eq_true, Bool.not_eq_true', List.contains_eq_mem,
    decide_eq_false_iff_not] at ha hb
  rw [attributeText_eq, attributeText_eq, List.append_assoc, List.append_assoc] at h
  obtain ⟨hname, hrest⟩ := append_inj_of_stops (isNameChar_of_mem ha.1) (isNameChar_of_mem hb.1)
    (stops_valuePart o _ hr) (stops_valuePart o _ hs) h
  obtain ⟨hvalue, hrs⟩ := valuePart_append_inj o ha.2 hb.2 hr hs hrest
  exact ⟨Prod.ext (String.toList_inj.1 hname) (String.toList_inj.1 hvalue), hrs⟩

/-- How the attributes of an element are written, one by one. -/
def attributeTexts (o : Options) (attributes : List (String × String)) : List (List Char) :=
  attributes.map fun (name, value) => attributeText o name.toList value.toList

/-- What may follow the attributes of a tag whose attributes are set apart by `gap`. -/
structure EndsList (gap s : List Char) : Prop where
  endsAttribute : EndsAttribute s
  ne_gap : ∀ c t, isNameChar c = true → s ≠ gap ++ c :: t

/-- Equal lists of attributes are read from equal texts. -/
theorem attributeTexts_append_inj (o : Options) {gap : List Char}
    (hgap : ∀ t, EndsAttribute (gap ++ t)) :
    ∀ {as bs : List (String × String)} {r s : List Char},
      as.all isPlainAttribute = true → bs.all isPlainAttribute = true →
      EndsList gap r → EndsList gap s →
      (attributeTexts o as).flatMap (gap ++ ·) ++ r =
        (attributeTexts o bs).flatMap (gap ++ ·) ++ s →
      as = bs ∧ r = s
  | [], [], r, s, _, _, _, _, h => ⟨rfl, h⟩
  | [], b :: bs, r, s, _, hb, hr, _, h => by
    -- The end of the list would begin like an attribute.
    rw [List.all_cons, Bool.and_eq_true, isPlainAttribute, Bool.and_eq_true] at hb
    obtain ⟨c, rest, hname, hc, -⟩ := exists_cons_of_isName hb.1.1
    refine absurd ?_ (hr.ne_gap c (rest ++ (valuePart o b.2.toList ++
      ((attributeTexts o bs).flatMap (gap ++ ·) ++ s))) hc)
    calc r = (attributeTexts o (b :: bs)).flatMap (gap ++ ·) ++ s := h
      _ = gap ++ attributeText o b.1.toList b.2.toList ++
          (attributeTexts o bs).flatMap (gap ++ ·) ++ s := rfl
      _ = _ := by
        rw [attributeText_eq, hname]
        simp only [List.append_assoc, List.cons_append]
  | a :: as, [], r, s, ha, _, _, hs, h => by
    rw [List.all_cons, Bool.and_eq_true, isPlainAttribute, Bool.and_eq_true] at ha
    obtain ⟨c, rest, hname, hc, -⟩ := exists_cons_of_isName ha.1.1
    refine absurd ?_ (hs.ne_gap c (rest ++ (valuePart o a.2.toList ++
      ((attributeTexts o as).flatMap (gap ++ ·) ++ r))) hc)
    calc s = (attributeTexts o (a :: as)).flatMap (gap ++ ·) ++ r := h.symm
      _ = gap ++ attributeText o a.1.toList a.2.toList ++
          (attributeTexts o as).flatMap (gap ++ ·) ++ r := rfl
      _ = _ := by
        rw [attributeText_eq, hname]
        simp only [List.append_assoc, List.cons_append]
  | a :: as, b :: bs, r, s, ha, hb, hr, hs, h => by
    rw [List.all_cons, Bool.and_eq_true] at ha hb
    have ends : ∀ (cs : List (String × String)) {t : List Char}, EndsList gap t →
        EndsAttribute ((attributeTexts o cs).flatMap (gap ++ ·) ++ t) := by
      intro cs t ht
      cases cs with
      | nil => exact ht.endsAttribute
      | cons d ds =>
        simp only [attributeTexts, List.map_cons, List.flatMap_cons, List.append_assoc]
        exact hgap _
    simp only [attributeTexts, List.map_cons, List.flatMap_cons, List.append_assoc] at h
    obtain ⟨rfl, hrest⟩ := attributeText_append_inj o ha.1 hb.1 (ends as hr) (ends bs hs)
      (List.append_cancel_left h)
    obtain ⟨rfl, hrs⟩ := attributeTexts_append_inj o hgap ha.2 hb.2 hr hs hrest
    exact ⟨rfl, hrs⟩

/-- The bracket of an open tag, with what stands in front of it. -/
def ending (indent : Int) (closed : Bool) : Bool → List Char
  | true => newline indent ++ trim (bracket closed)
  | false => bracket closed

/-- What sets an attribute apart from what stands in front of it. -/
def gap (indent : Int) : Bool → List Char
  | true => newline (indent + 1)
  | false => [' ']

/-- The attributes of a tag are written one by one, each behind a gap, and the bracket follows. -/
theorem attributeList_eq (o : Options) (indent : Int) (closed : Bool)
    (as : List (String × String)) :
    attributeList o indent closed (attributeTexts o as) =
      (attributeTexts o as).flatMap (gap indent (o.attributesPerLine < as.length) ++ ·) ++
        ending indent closed (o.attributesPerLine < as.length) := by
  have hlength : (attributeTexts o as).length = as.length := List.length_map _
  unfold attributeList
  rw [hlength]
  split
  · next hnil =>
    -- No limit is exceeded by no attributes.
    have has : as = [] := by simpa [attributeTexts] using hnil
    subst has
    rfl
  · split
    · next hlimit => simp only [hlimit, decide_true, gap, ending, List.append_assoc]
    · next hlimit => simp only [hlimit, decide_false, gap, ending, List.singleton_append]

/-- A gap cannot go on with an attribute. -/
theorem endsAttribute_gap (indent : Int) (wrapped : Bool) (s : List Char) :
    EndsAttribute (gap indent wrapped ++ s) := by
  cases wrapped with
  | false => exact endsAttribute_cons (by decide) (by decide) _
  | true => exact endsAttribute_cons (by decide) (by decide) _

/-- The bracket of an open tag ends its attributes. -/
theorem endsList_ending (indent : Int) (closed wrapped : Bool) (s : List Char) :
    EndsList (gap indent wrapped) (ending indent closed wrapped ++ s) := by
  cases wrapped with
  | false =>
    constructor
    · cases closed with
      | false => exact endsAttribute_cons (by decide) (by decide) _
      | true => exact endsAttribute_cons (by decide) (by decide) _
    · intro c t hc heq
      cases closed with
      | false => exact absurd (List.cons.inj heq).1 (by decide)
      | true =>
        have : c = '/' := (List.cons.inj (List.cons.inj heq).2).1.symm
        rw [this] at hc
        exact absurd hc (by decide)
  | true =>
    constructor
    · exact endsAttribute_cons (by decide) (by decide) _
    · intro c t hc heq
      have hspaces : ∀ level, ∀ d ∈ indentation level, (d == ' ') = true := by
        intro level d hd
        rw [List.eq_of_mem_replicate hd]
        rfl
      have hcut : indentation indent ++ (trim (bracket closed) ++ s) =
          indentation (indent + 1) ++ c :: t := by
        simpa [ending, gap, newline] using heq
      -- Both sides begin with spaces; behind them stands the bracket or a name.
      have hname : Stops (· == ' ') (c :: t) := by
        refine stops_cons ?_ t
        rw [beq_eq_false_iff_ne]
        rintro rfl
        exact absurd hc (by decide)
      cases closed with
      | false =>
        have hbracket : Stops (· == ' ') (trim (bracket false) ++ s) := stops_cons (by decide) s
        obtain ⟨-, hrest⟩ := append_inj_of_stops (hspaces _) (hspaces _) hbracket hname hcut
        have : c = '>' := (List.cons.inj hrest).1.symm
        rw [this] at hc
        exact absurd hc (by decide)
      | true =>
        have hbracket : Stops (· == ' ') (trim (bracket true) ++ s) := stops_cons (by decide) _
        obtain ⟨-, hrest⟩ := append_inj_of_stops (hspaces _) (hspaces _) hbracket hname hcut
        have : c = '/' := (List.cons.inj hrest).1.symm
        rw [this] at hc
        exact absurd hc (by decide)

/-- Equal brackets are read from equal texts. -/
theorem ending_append_inj {indent : Int} {closed closed' wrapped : Bool} {r s : List Char}
    (h : ending indent closed wrapped ++ r = ending indent closed' wrapped ++ s) :
    closed = closed' ∧ r = s := by
  have hslash : ∀ x y : List Char, '/' :: x ≠ '>' :: y := by
    intro x y heq
    exact absurd (List.cons.inj heq).1 (by decide)
  cases wrapped with
  | false =>
    cases closed <;> cases closed'
    · exact ⟨rfl, List.append_cancel_left h⟩
    · exact absurd (List.cons.inj h).1 (by decide)
    · exact absurd (List.cons.inj h).1 (by decide)
    · exact ⟨rfl, List.append_cancel_left h⟩
  | true =>
    simp only [ending, List.append_assoc] at h
    have hcut := List.append_cancel_left h
    cases closed <;> cases closed'
    · exact ⟨rfl, List.append_cancel_left hcut⟩
    · exact absurd hcut.symm (hslash _ _)
    · exact absurd hcut (hslash _ _)
    · exact ⟨rfl, List.append_cancel_left hcut⟩

/-- Attributes on lines of their own do not look like attributes on the line of their tag. -/
theorem attributes_inline_ne_wrapped (o : Options) {indent : Int} {closed closed' : Bool}
    {as bs : List (String × String)} {r s : List Char} (hbs : bs ≠ []) :
    (attributeTexts o as).flatMap (gap indent false ++ ·) ++ ending indent closed false ++ r ≠
      (attributeTexts o bs).flatMap (gap indent true ++ ·) ++ ending indent closed' true ++ s := by
  intro h
  have hwrapped : ((attributeTexts o bs).flatMap (gap indent true ++ ·) ++
      ending indent closed' true ++ s).head? = some '\n' := by
    cases bs with
    | nil => exact absurd rfl hbs
    | cons b bs => rfl
  have hinline : ((attributeTexts o as).flatMap (gap indent false ++ ·) ++
      ending indent closed false ++ r).head? = some ' ' ∨
      ((attributeTexts o as).flatMap (gap indent false ++ ·) ++
        ending indent closed false ++ r).head? = some '>' := by
    cases as with
    | nil =>
      cases closed with
      | false => exact .inr rfl
      | true => exact .inl rfl
    | cons a as => exact .inl rfl
  rw [h, hwrapped, Option.some_inj, Option.some_inj] at hinline
  exact absurd hinline (by decide)

/-- Equal attributes and brackets are read from equal texts. -/
theorem attributeList_append_inj (o : Options) {indent : Int} {closed closed' : Bool}
    {as bs : List (String × String)} {r s : List Char} (ha : as.all isPlainAttribute = true)
    (hb : bs.all isPlainAttribute = true)
    (h : attributeList o indent closed (attributeTexts o as) ++ r =
      attributeList o indent closed' (attributeTexts o bs) ++ s) :
    as = bs ∧ closed = closed' ∧ r = s := by
  rw [attributeList_eq, attributeList_eq] at h
  have nonempty : ∀ cs : List (String × String), o.attributesPerLine < cs.length → cs ≠ [] := by
    rintro cs hcs rfl
    simp at hcs
  by_cases has : o.attributesPerLine < as.length <;> by_cases hbs : o.attributesPerLine < bs.length
  · simp only [has, hbs, decide_true, List.append_assoc] at h
    obtain ⟨rfl, hrest⟩ := attributeTexts_append_inj o (endsAttribute_gap indent true) ha hb
      (endsList_ending indent closed true r) (endsList_ending indent closed' true s) h
    obtain ⟨rfl, hrs⟩ := ending_append_inj hrest
    exact ⟨rfl, rfl, hrs⟩
  · simp only [has, hbs, decide_true, decide_false] at h
    exact absurd h.symm (attributes_inline_ne_wrapped o (nonempty as has))
  · simp only [has, hbs, decide_true, decide_false] at h
    exact absurd h (attributes_inline_ne_wrapped o (nonempty bs hbs))
  · simp only [has, hbs, decide_false, List.append_assoc] at h
    obtain ⟨rfl, hrest⟩ := attributeTexts_append_inj o (endsAttribute_gap indent false) ha hb
      (endsList_ending indent closed false r) (endsList_ending indent closed' false s) h
    obtain ⟨rfl, hrs⟩ := ending_append_inj hrest
    exact ⟨rfl, rfl, hrs⟩

/-- The attributes of a tag do not go on with the name of the tag. -/
theorem stops_attributeList (o : Options) (indent : Int) (closed : Bool)
    (as : List (String × String)) (r : List Char) :
    Stops isNameChar (attributeList o indent closed (attributeTexts o as) ++ r) := by
  rw [attributeList_eq, List.append_assoc]
  generalize (decide (o.attributesPerLine < as.length)) = wrapped
  cases as with
  | nil => exact (endsList_ending indent closed wrapped r).endsAttribute.1
  | cons a as =>
    simp only [attributeTexts, List.map_cons, List.flatMap_cons, List.append_assoc]
    exact (endsAttribute_gap indent wrapped _).1

end MarkupOutline.Layout
