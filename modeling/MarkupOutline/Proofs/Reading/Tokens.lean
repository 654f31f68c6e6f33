import MarkupOutline.Proofs.Reading.Placed
import MarkupOutline.Proofs.Render.Parts
import MarkupOutline.Proofs.Render.Payload
import MarkupOutline.Proofs.Text.References

/-!
# Tokens of an outline

The pieces that an outline is made of are read back as one token each: escaped text up to the next
angle bracket, open tags however their attributes are laid out, end tags and comments. What follows
a piece does not matter, as long as text is followed by a bracket or by nothing.
-/

namespace MarkupOutline.Html.Token

open Text Layout

/-! ## Attributes -/

/-- Space in front of attributes is passed over. -/
theorem scanAttributes_space (n : Nat) {b : List Char} (hb : ∀ c ∈ b, isSpace c = true)
    (s : List Char) : scanAttributes n (b ++ s) = scanAttributes n s := by
  cases n with
  | zero => rfl
  | succ n => rw [scanAttributes, scanAttributes, List.dropWhile_append_of_pos hb]

/-- The attributes of a tag are over at its bracket. -/
theorem scanAttributes_bracket (n : Nat) (closed : Bool) (rest : List Char) :
    scanAttributes (n + 1) (trim (bracket closed) ++ rest) = some ([], closed, rest) := by
  cases closed <;> rfl

/-- What can follow an attribute in a tag: the characters of its name are over, and behind space
comes no equals sign. -/
structure FollowsAttribute (t : List Char) : Prop where
  ends_name : ∃ c rest, t = c :: rest ∧ inAttributeName c = false
  no_value : (t.dropWhile isSpace).head? ≠ some '='

/-- A quoted value is read up to its closing quote. -/
theorem scanValue_quoted {value : List Char} (hvalue : '"' ∉ value) (t : List Char) :
    scanValue ('=' :: '"' :: (value ++ '"' :: t)) = (value, t) := by
  have hinside : ∀ c ∈ value, decide (c ≠ '"') = true := by
    intro c hc
    rw [decide_eq_true_eq]
    rintro rfl
    exact hvalue hc
  have hstops : Stops (fun c => decide (c ≠ '"')) ('"' :: t) := stops_cons (by decide) t
  rw [scanValue]
  change ((value ++ '"' :: t).takeWhile (· ≠ '"'),
    ((value ++ '"' :: t).dropWhile (· ≠ '"')).drop 1) = (value, t)
  rw [takeWhile_append_of_stops hinside hstops, dropWhile_append_of_stops hinside hstops]
  rfl

/-- Where no equals sign follows there is no value. -/
theorem scanValue_missing {t : List Char} (ht : FollowsAttribute t) :
    scanValue t = ([], t.dropWhile isSpace) := by
  unfold scanValue
  split
  · next rest heq => exact absurd (by rw [heq]; rfl) ht.no_value
  · rfl

/-- What is known about an attribute that is read under its name. -/
structure IsSteady (a : String × String) : Prop where
  name_cons : ∃ c more, a.1.toList = c :: more
  in_name : ∀ c ∈ a.1.toList, inAttributeName c = true
  nameOf_eq : nameOf a.1.toList = a.1
  no_quote : '"' ∉ a.2.toList

/-- The check of an attribute gives what is known about it. -/
theorem isSteady_of_check {a : String × String} (h : isSteadyAttribute a = true) : IsSteady a := by
  simp only [isSteadyAttribute, Bool.and_eq_true, Bool.not_eq_true', List.all_eq_true,
    decide_eq_true_eq] at h
  obtain ⟨⟨⟨⟨hne, hin⟩, -⟩, hname⟩, hquote⟩ := h
  refine ⟨?_, fun c hc => (hin c hc).1, hname, fun hmem => (hquote _ hmem).1 rfl⟩
  cases hlist : a.1.toList with
  | nil =>
    rw [String.toList_eq_nil_iff] at hlist
    rw [hlist] at hne
    cases hne
  | cons c more => exact ⟨c, more, rfl⟩

/-- A character of an attribute name is no space, and neither a slash, a bracket nor an equals
sign. -/
theorem inAttributeName_iff (c : Char) :
    inAttributeName c = true ↔ isSpace c = false ∧ c ≠ '/' ∧ c ≠ '>' ∧ c ≠ '=' := by
  simp [inAttributeName, and_assoc]

/-- An attribute that is read under its name is the first to be read. -/
theorem scanAttributes_attribute (o : Options) (n : Nat) {a : String × String} (ha : IsSteady a)
    {t : List Char} (ht : FollowsAttribute t) :
    scanAttributes (n + 1) (attributeText o a.1.toList a.2.toList ++ t) =
      (scanAttributes n t).map fun (attributes, closed, rest) =>
        (rereadAttribute a :: attributes, closed, rest) := by
  obtain ⟨c, more, hname⟩ := ha.name_cons
  have hin := ha.in_name
  rw [hname] at hin
  obtain ⟨hspace, hslash, hbracket, -⟩ := (inAttributeName_iff c).1 (hin c (by simp))
  have hmore : ∀ d ∈ more, inAttributeName d = true := fun d hd => hin d (by simp [hd])
  -- The value is read back whether it is written or not.
  obtain ⟨rest, hvalue, hrest⟩ : ∃ rest,
      (a.2.toList, rest) = scanValue (valuePart o a.2.toList ++ t) ∧
        scanAttributes n rest = scanAttributes n t := by
    unfold valuePart
    split
    · -- The value is the text between the quotes.
      refine ⟨t, ?_, rfl⟩
      rw [List.cons_append, List.cons_append, List.append_assoc, List.singleton_append]
      exact (scanValue_quoted ha.no_quote t).symm
    · next hbare =>
      -- A bare name has the empty value, and looking for an equals sign skips white space only.
      have hempty : a.2.toList = [] := by
        simp only [Bool.or_eq_true, Bool.not_eq_true', not_or, Bool.not_eq_false] at hbare
        exact List.isEmpty_iff.1 hbare.1
      refine ⟨t.dropWhile isSpace, ?_, ?_⟩
      · rw [List.nil_append, scanValue_missing ht, hempty]
      · conv_rhs => rw [← List.takeWhile_append_dropWhile (p := isSpace) (l := t)]
        exact (scanAttributes_space n (fun c hc => List.mem_takeWhile_imp hc) _).symm
  have hstops : Stops inAttributeName (valuePart o a.2.toList ++ t) := by
    unfold valuePart
    split
    · exact stops_cons (by decide) _
    · obtain ⟨d, u, rfl, hd⟩ := ht.ends_name
      exact stops_cons hd u
  rw [attributeText_eq, hname, List.cons_append, List.cons_append, List.append_assoc,
    scanAttributes, List.dropWhile_cons_of_neg (by rw [hspace]; decide)]
  split
  · next heq => cases heq
  · next heq => exact absurd (List.cons.inj heq).1 hbracket
  · next heq => exact absurd (List.cons.inj heq).1 hslash
  · next heq => exact absurd (List.cons.inj heq).1 hslash
  · next heq =>
    obtain ⟨rfl, rfl⟩ := List.cons.inj heq
    rw [List.span_eq_takeWhile_dropWhile, takeWhile_append_of_stops hmore hstops,
      dropWhile_append_of_stops hmore hstops]
    dsimp only
    rw [← hvalue]
    dsimp only
    rw [hrest, ← hname, ha.nameOf_eq]
    rfl

/-- Behind the attributes of a tag, white space and a bracket, or the next attribute, follow. -/
theorem followsAttribute_cons {b : List Char} (hne : b ≠ []) (hb : ∀ c ∈ b, isSpace c = true)
    {c : Char} (hspace : isSpace c = false) (hc : c ≠ '=') (s : List Char) :
    FollowsAttribute (b ++ c :: s) := by
  obtain ⟨d, more, rfl⟩ := List.exists_cons_of_ne_nil hne
  refine ⟨⟨d, more ++ c :: s, rfl, ?_⟩, ?_⟩
  · simp [inAttributeName, hb d (by simp)]
  · rw [List.dropWhile_append_of_pos hb, List.dropWhile_cons_of_neg (by rw [hspace]; decide)]
    simpa using hc

/-- Line breaks and indentation are space. -/
theorem isSpace_newline (level : Int) : ∀ c ∈ newline level, isSpace c = true := by
  intro c hc
  rcases List.mem_cons.1 hc with rfl | hc
  · decide
  · rw [List.eq_of_mem_replicate hc]
    decide

/-- What sets an attribute apart is space. -/
theorem isSpace_gap (indent : Int) (wrapped : Bool) :
    ∀ c ∈ gap indent wrapped, isSpace c = true := by
  cases wrapped with
  | true => exact isSpace_newline (indent + 1)
  | false => simp [gap, isSpace]

/-- The end of an open tag is its bracket behind space. -/
theorem exists_ending_eq (indent : Int) (closed wrapped : Bool) :
    ∃ b, ending indent closed wrapped = b ++ trim (bracket closed) ∧
      (∀ c ∈ b, isSpace c = true) ∧ (b = [] → closed = false) := by
  cases wrapped with
  | true => exact ⟨newline indent, rfl, isSpace_newline indent, fun h => by cases h⟩
  | false =>
    cases closed with
    | true => exact ⟨[' '], rfl, List.forall_mem_singleton.2 rfl, fun h => by cases h⟩
    | false => exact ⟨[], rfl, List.forall_mem_nil _, fun _ => rfl⟩

/-- The end of an open tag is read as its bracket. -/
theorem scanAttributes_ending (n : Nat) (indent : Int) (closed wrapped : Bool) (rest : List Char) :
    scanAttributes (n + 1) (ending indent closed wrapped ++ rest) = some ([], closed, rest) := by
  obtain ⟨b, hb, hspace, -⟩ := exists_ending_eq indent closed wrapped
  rw [hb, List.append_assoc, scanAttributes_space _ hspace, scanAttributes_bracket]

/-- The end of an open tag can follow an attribute. -/
theorem followsAttribute_ending (indent : Int) (closed wrapped : Bool) (rest : List Char) :
    FollowsAttribute (ending indent closed wrapped ++ rest) := by
  obtain ⟨b, hb, hspace, hopen⟩ := exists_ending_eq indent closed wrapped
  rw [hb, List.append_assoc]
  by_cases hne : b = []
  · rw [hne, hopen hne]
    refine ⟨⟨'>', rest, rfl, by decide⟩, ?_⟩
    change (('>' :: rest).dropWhile isSpace).head? ≠ some '='
    rw [List.dropWhile_cons_of_neg (by decide)]
    simp
  · cases closed with
    | true => exact followsAttribute_cons hne hspace (c := '/') (by decide) (by decide) _
    | false => exact followsAttribute_cons hne hspace (c := '>') (by decide) (by decide) _

/-- The next attribute can follow an attribute. -/
theorem followsAttribute_attribute (o : Options) (indent : Int) (wrapped : Bool)
    {a : String × String} (ha : IsSteady a) (t : List Char) :
    FollowsAttribute (gap indent wrapped ++ attributeText o a.1.toList a.2.toList ++ t) := by
  obtain ⟨c, more, hname⟩ := ha.name_cons
  obtain ⟨hspace, -, -, hequals⟩ := (inAttributeName_iff c).1 (ha.in_name c (by simp [hname]))
  have hgap : gap indent wrapped ≠ [] := by cases wrapped <;> exact List.cons_ne_nil _ _
  rw [attributeText_eq, hname, List.append_assoc, List.cons_append, List.cons_append]
  exact followsAttribute_cons hgap (isSpace_gap indent wrapped) hspace hequals _

/-- The attributes of a tag are read back however they are laid out. -/
theorem scanAttributes_flatMap (o : Options) (indent : Int) (closed wrapped : Bool)
    (rest : List Char) (as : List (String × String)) (ha : as.all isSteadyAttribute = true)
    (n : Nat) (hn : as.length < n) :
    scanAttributes n ((attributeTexts o as).flatMap (gap indent wrapped ++ ·) ++
      (ending indent closed wrapped ++ rest)) =
        some (as.map rereadAttribute, closed, rest) := by
  -- The induction is over the attributes; each of them uses up one of the steps.
  induction as generalizing n with
  | nil =>
    obtain ⟨n, rfl⟩ := Nat.exists_eq_add_of_lt hn
    exact scanAttributes_ending _ indent closed wrapped rest
  | cons a as ih =>
    obtain ⟨n, rfl⟩ : ∃ m, n = m + 1 := ⟨n - 1, by omega⟩
    rw [List.all_cons, Bool.and_eq_true] at ha
    have hsteady := isSteady_of_check ha.1
    have hfollows : FollowsAttribute ((attributeTexts o as).flatMap (gap indent wrapped ++ ·) ++
        (ending indent closed wrapped ++ rest)) := by
      cases as with
      | nil => exact followsAttribute_ending indent closed wrapped rest
      | cons a' as =>
        rw [List.all_cons, Bool.and_eq_true] at ha
        have hnext := isSteady_of_check ha.2.1
        simp only [attributeTexts, List.map_cons, List.flatMap_cons, List.append_assoc]
        rw [← List.append_assoc]
        exact followsAttribute_attribute o indent wrapped hnext _
    have hrest := ih ha.2 n (by rw [List.length_cons] at hn; omega)
    simp only [attributeTexts, List.map_cons, List.flatMap_cons, List.append_assoc]
      at hrest hfollows ⊢
    rw [scanAttributes_space _ (isSpace_gap indent wrapped),
      scanAttributes_attribute o n hsteady hfollows, hrest]
    rfl

/-- Every attribute takes up characters of its own. -/
theorem length_le_length_flatMap (o : Options) (indent : Int) (wrapped : Bool)
    (as : List (String × String)) :
    as.length ≤ ((attributeTexts o as).flatMap (gap indent wrapped ++ ·)).length := by
  have hgap : 0 < (gap indent wrapped).length := by cases wrapped <;> exact Nat.succ_pos _
  induction as with
  | nil => exact Nat.zero_le _
  | cons a as ih =>
    simp only [attributeTexts, List.map_cons, List.flatMap_cons, List.length_append,
      List.length_cons] at ih ⊢
    omega

/-- The first of equal names stay the first when values are read back. -/
theorem firstOfEach_map_reread (as : List (String × String)) :
    firstOfEach (as.map rereadAttribute) = (firstOfEach as).map rereadAttribute := by
  unfold firstOfEach
  have hkept : ∀ kept : List (String × String),
      (as.map rereadAttribute).foldl
          (fun kept a => if kept.any (·.1 = a.1) then kept else kept ++ [a])
          (kept.map rereadAttribute) =
        (as.foldl (fun kept a => if kept.any (·.1 = a.1) then kept else kept ++ [a]) kept).map
          rereadAttribute := by
    induction as with
    | nil => exact fun kept => rfl
    | cons a as ih =>
      intro kept
      have hany : (kept.map rereadAttribute).any (·.1 = (rereadAttribute a).1) =
          kept.any (·.1 = a.1) := by
        rw [List.any_map]
        rfl
      rw [List.map_cons, List.foldl_cons, List.foldl_cons, hany, ← ih]
      split <;> simp
  exact hkept []

/-- What follows the name of an open tag is read back as the attributes and the bracket. -/
theorem scanTagRest_attributeList (o : Options) (indent : Int) (closed : Bool)
    {as : List (String × String)} (ha : as.all isSteadyAttribute = true)
    (hfirst : firstOfEach as = as) (rest : List Char) :
    scanTagRest (attributeList o indent closed (attributeTexts o as) ++ rest) =
      some (as.map rereadAttribute, closed, rest) := by
  rw [scanTagRest, attributeList_eq, List.append_assoc]
  have hbound : as.length < ((attributeTexts o as).flatMap
      (gap indent (decide (o.attributesPerLine < as.length)) ++ ·) ++
        (ending indent closed (decide (o.attributesPerLine < as.length)) ++ rest)).length + 1 := by
    rw [List.length_append]
    have := length_le_length_flatMap o indent (decide (o.attributesPerLine < as.length)) as
    omega
  rw [scanAttributes_flatMap o indent closed _ rest as ha _ hbound, Option.map_some]
  dsimp only
  rw [firstOfEach_map_reread, hfirst]

/-- The name of a tag ends where its attributes begin. -/
theorem stops_inTagName_attributeList (o : Options) (indent : Int) (closed : Bool)
    (as : List (String × String)) (rest : List Char) :
    Stops inTagName (attributeList o indent closed (attributeTexts o as) ++ rest) := by
  have hspace : ∀ c, isSpace c = true → inTagName c = false := by
    intro c hc
    simp [inTagName, hc]
  rw [attributeList_eq, List.append_assoc]
  cases as with
  | nil =>
    obtain ⟨b, hb, hblank, -⟩ := exists_ending_eq indent closed
      (decide (o.attributesPerLine < ([] : List (String × String)).length))
    rw [hb, List.append_assoc]
    cases b with
    | nil => cases closed <;> exact stops_cons (by decide) _
    | cons c b => exact stops_cons (hspace c (hblank c (by simp))) _
  | cons a as =>
    cases decide (o.attributesPerLine < (a :: as).length) with
    | true => exact stops_cons (by decide) _
    | false => exact stops_cons (by decide) _

/-! ## Tags -/

/-- What is known about the name of an element as tags have it. -/
structure IsName (name : String) : Prop where
  name_cons : ∃ c more, name.toList = c :: more ∧ c.isAlpha = true
  in_name : ∀ c ∈ name.toList, inTagName c = true
  nameOf_eq : nameOf name.toList = name

/-- The check of a name gives what is known about it. -/
theorem isName_of_check {name : String} (h : isTagName name = true) : IsName name := by
  simp only [isTagName, Bool.and_eq_true, List.all_eq_true, decide_eq_true_eq] at h
  obtain ⟨⟨hfirst, hin⟩, hname⟩ := h
  refine ⟨?_, fun c hc => (hin c hc).1.1, hname⟩
  cases hlist : name.toList with
  | nil =>
    rw [hlist] at hfirst
    cases hfirst
  | cons c more =>
    rw [hlist] at hfirst
    exact ⟨c, more, rfl, hfirst⟩

/-- A bracket in front of a letter begins a start tag. -/
theorem scanMarkup_of_isAlpha (foreign : Bool) {c : Char} (hc : c.isAlpha = true)
    (s : List Char) : scanMarkup foreign (c :: s) = scanStartTag (c :: s) := by
  have hne : ∀ d : Char, d.isAlpha = false → c ≠ d := by
    rintro d hd rfl
    rw [hc] at hd
    cases hd
  unfold scanMarkup
  split
  · next heq => exact absurd (List.cons.inj heq).1 (hne '!' (by decide))
  · next heq => exact absurd (List.cons.inj heq).1 (hne '/' (by decide))
  · next heq => exact absurd (List.cons.inj heq).1 (hne '/' (by decide))
  · next heq => exact absurd (List.cons.inj heq).1 (hne '/' (by decide))
  · next heq => exact absurd (List.cons.inj heq).1 (hne '?' (by decide))
  · next heq =>
    obtain ⟨rfl, rfl⟩ := List.cons.inj heq
    rw [if_pos hc]
  · next heq => cases heq

/-- An open tag is read back as a start tag. -/
theorem next_openTag (o : Options) (foreign : Bool) (indent : Int) (closed : Bool) {tag : String}
    (htag : IsName tag) {as : List (String × String)} (ha : as.all isSteadyAttribute = true)
    (hfirst : firstOfEach as = as) (rest : List Char) :
    next .data foreign ('<' :: (tag.toList ++
        (attributeList o indent closed (attributeTexts o as) ++ rest))) =
      (some (.startTag ⟨tag, as.map rereadAttribute, closed⟩), rest) := by
  have hstops := stops_inTagName_attributeList o indent closed as rest
  obtain ⟨c, more, hname, halpha⟩ := htag.name_cons
  rw [next, if_pos rfl, hname, List.cons_append, scanMarkup_of_isAlpha foreign halpha,
    ← List.cons_append, ← hname, scanStartTag, List.span_eq_takeWhile_dropWhile,
    takeWhile_append_of_stops htag.in_name hstops, dropWhile_append_of_stops htag.in_name hstops]
  dsimp only
  rw [scanTagRest_attributeList o indent closed ha hfirst rest]
  dsimp only
  rw [htag.nameOf_eq]

/-- The name of an end tag and the bracket behind it are read back as that tag. -/
theorem scanEndTag_append {tag : String} (htag : IsName tag) (rest : List Char) :
    scanEndTag (tag.toList ++ '>' :: rest) = (some (.endTag tag), rest) := by
  have hstops : Stops inTagName ('>' :: rest) := stops_cons (by decide) rest
  rw [scanEndTag, List.span_eq_takeWhile_dropWhile, takeWhile_append_of_stops htag.in_name hstops,
    dropWhile_append_of_stops htag.in_name hstops]
  dsimp only
  have hrest : scanTagRest ('>' :: rest) = some ([], false, rest) := rfl
  rw [hrest, htag.nameOf_eq]

/-- An end tag is read back as one. -/
theorem next_endTag (foreign : Bool) {tag : String} (htag : IsName tag) (rest : List Char) :
    next .data foreign ('<' :: '/' :: (tag.toList ++ '>' :: rest)) =
      (some (.endTag tag), rest) := by
  obtain ⟨c, more, hname, halpha⟩ := htag.name_cons
  have hc : c ≠ '>' := by
    rintro rfl
    exact absurd halpha (by decide)
  have hend : scanMarkup foreign ('/' :: c :: (more ++ '>' :: rest)) =
      scanEndTag (c :: (more ++ '>' :: rest)) := by
    unfold scanMarkup
    split
    · next heq => exact absurd (List.cons.inj heq).1 (by decide)
    · next heq => exact absurd (List.cons.inj (List.cons.inj heq).2).1 hc
    · next heq =>
      obtain ⟨rfl, rfl⟩ := List.cons.inj (List.cons.inj heq).2
      rw [if_pos halpha]
    · next heq => cases (List.cons.inj heq).2
    · next heq => exact absurd (List.cons.inj heq).1 (by decide)
    · next hletter _ _ heq =>
      obtain ⟨rfl, rfl⟩ := List.cons.inj heq
      exact (hletter _ _ rfl rfl).elim
    · next heq => cases heq
  rw [next, if_pos rfl, hname, List.cons_append, hend, ← List.cons_append, ← hname,
    scanEndTag_append htag]

/-! ## Text and comments -/

/-- Escaped text is read back as the text up to the next angle bracket. -/
theorem next_text (foreign : Bool) {s : List Char} (hs : s ≠ []) {rest : List Char}
    (hrest : ∀ c ∈ rest.head?, c = '<') :
    next .data foreign (escape s ++ rest) = (some (.text s), rest) := by
  have hne : escape s ≠ [] := fun hnil => hs (escape_eq_nil_iff.1 hnil)
  have hstops : Stops (fun c => decide (c ≠ '<')) rest := by
    intro c hc
    rw [hrest c hc]
    rfl
  have hbracket := not_mem_escape s
  have hdecode := Reference.decode_escape false s
  obtain ⟨c, more, hcons⟩ := List.exists_cons_of_ne_nil hne
  rw [hcons, List.mem_cons, not_or] at hbracket
  have hinside : ∀ d ∈ more, decide (d ≠ '<') = true := by
    intro d hd
    rw [decide_eq_true_eq]
    rintro rfl
    exact hbracket.2 hd
  rw [hcons] at hdecode ⊢
  rw [List.cons_append, next]
  dsimp only
  rw [if_neg (Ne.symm hbracket.1), List.span_eq_takeWhile_dropWhile,
    takeWhile_append_of_stops hinside hstops, dropWhile_append_of_stops hinside hstops]
  dsimp only
  rw [hdecode]

/-- Laying out a payload brings in no characters that are not read as they are written. -/
theorem isSteady_of_mem_payload {indent : Int} {data : List Char}
    (h : ∀ c ∈ data, isSteady c = true) {c : Char} (hc : c ∈ payload indent data) :
    isSteady c = true := by
  rcases mem_payload hc with hdata | rfl | rfl
  · exact h c hdata
  · decide
  · decide

/-- A character that is read as it is written is not replaced. -/
theorem withoutNull_of_isSteady {c : Char} (hc : isSteady c = true) : withoutNull c = c := by
  simp only [isSteady, Bool.and_eq_true, decide_eq_true_eq] at hc
  rw [withoutNull, if_neg hc.1]

/-- Behind a text without the other form of the closing delimiter, it does not begin earlier than
the usual form. -/
theorem ne_bang_append {c : Char} {s r t : List Char} (hbang : ¬ "--!>".toList <:+: c :: s) :
    c :: s ++ arrow ++ r ≠ '-' :: '-' :: '!' :: '>' :: t := by
  intro heq
  match s, hbang with
  | [], _ =>
    have : '-' = '!' := (List.cons.inj (List.cons.inj (List.cons.inj heq).2).2).1
    exact absurd this (by decide)
  | [d], _ =>
    have : '-' = '!' := (List.cons.inj (List.cons.inj (List.cons.inj heq).2).2).1
    exact absurd this (by decide)
  | [d, e], _ =>
    have : '-' = '>' := (List.cons.inj (List.cons.inj (List.cons.inj (List.cons.inj heq).2).2).2).1
    exact absurd this (by decide)
  | d :: e :: f :: rest, hbang =>
    have hc : c = '-' := (List.cons.inj heq).1
    have hd : d = '-' := (List.cons.inj (List.cons.inj heq).2).1
    have he : e = '!' := (List.cons.inj (List.cons.inj (List.cons.inj heq).2).2).1
    have hf : f = '>' :=
      (List.cons.inj (List.cons.inj (List.cons.inj (List.cons.inj heq).2).2).2).1
    subst hc hd he hf
    exact hbang ⟨[], rest, rfl⟩

/-- Comment data is read up to the closing delimiter, if neither form of it stands inside. -/
theorem commentData_append_arrow {s : List Char} (hsteady : ∀ c ∈ s, isSteady c = true)
    (harrow : NoArrow s) (hbang : ¬ "--!>".toList <:+: s) (rest : List Char) :
    commentData (s ++ arrow ++ rest) = (s, rest) := by
  induction s with
  | nil => rfl
  | cons c s ih =>
    have hrest := ih (fun d hd => hsteady d (by simp [hd])) harrow.tail
      fun h => hbang (List.infix_cons h)
    have hlength : ∀ t : List Char, c :: s ++ arrow ++ rest = t → 3 < t.length := by
      rintro t rfl
      simp [arrow]
      omega
    have hnull : withoutNull c = c := withoutNull_of_isSteady (hsteady c (by simp))
    unfold commentData
    split
    · next heq => cases heq
    · next heq => exact absurd heq harrow.ne_arrow_append
    · next heq => exact absurd heq (ne_bang_append hbang)
    · next heq => exact absurd (hlength _ heq) (by decide)
    · next heq => exact absurd (hlength _ heq) (by decide)
    · next heq => exact absurd (hlength _ heq) (by decide)
    · next heq =>
      obtain ⟨rfl, rfl⟩ := List.cons.inj heq
      rw [List.append_eq, List.append_eq, hrest]
      dsimp only
      rw [hnull]

/-- A comment is read back with its payload as its data. -/
theorem next_comment (foreign : Bool) (indent : Int) {data : List Char}
    (hdata : isCommentData data = true) (rest : List Char) :
    next .data foreign ('<' :: '!' :: '-' :: '-' :: (payload indent data ++ arrow ++ rest)) =
      (some (.comment (String.ofList (payload indent data))), rest) := by
  simp only [isCommentData, Bool.and_eq_true, Bool.not_eq_true', decide_eq_false_iff_not,
    List.all_eq_true] at hdata
  obtain ⟨⟨hsteady, harrow⟩, hbang⟩ := hdata
  have hbang' : ¬ "--!>".toList <:+: payload indent data :=
    fun h => hbang (infix_of_payload (by decide) (by decide) h)
  have hcut := commentData_append_arrow (fun c hc => isSteady_of_mem_payload hsteady hc)
    (noArrow_payload indent harrow) hbang' rest
  have hcomment : next .data foreign
      ('<' :: '!' :: '-' :: '-' :: (payload indent data ++ arrow ++ rest)) =
        scanComment (payload indent data ++ arrow ++ rest) := rfl
  have hbehind : scanComment (payload indent data ++ arrow ++ rest) =
      (some (.comment (String.ofList (payload indent data))), rest) := by
    have hfirst : ∀ d t, payload indent data ++ arrow ++ rest = d :: t →
        isBlank d = true ∨ ∃ u, d = '-' ∧ t = '-' :: u := by
      intro d t heq
      cases hpayload : payload indent data with
      | nil =>
        rw [hpayload] at heq
        obtain ⟨rfl, rfl⟩ := List.cons.inj heq
        exact .inr ⟨_, rfl, rfl⟩
      | cons c s =>
        rw [hpayload] at heq
        obtain ⟨rfl, -⟩ := List.cons.inj heq
        exact .inl (isBlank_of_head?_payload (by rw [hpayload]; rfl))
    unfold scanComment
    -- The payload does not look like the short comments, which end right after they begin.
    split
    · next heq =>
      rcases hfirst _ _ heq with hblank | ⟨u, hdash, -⟩
      · exact absurd hblank (by decide)
      · exact absurd hdash (by decide)
    · next heq =>
      rcases hfirst _ _ heq with hblank | ⟨u, -, hdash⟩
      · exact absurd hblank (by decide)
      · exact absurd (List.cons.inj hdash).1 (by decide)
    · rw [hcut]
  rw [hcomment, hbehind]

end MarkupOutline.Html.Token
