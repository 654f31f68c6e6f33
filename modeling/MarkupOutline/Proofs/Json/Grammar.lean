import MarkupOutline.Proofs.Json.Fields

/-!
# Which JSON values are stored trees

A JSON value is read as a tree exactly if it is an object with the type of a node, the field that the
type requires, and nothing unreadable in the fields that the type declares. Any other value has a
first fault: the type of an object comes before its fields, the fields come in the order of their
declaration and the items of an array in theirs, and a missing field comes last
(`ofJson_follows_grammar`).

The grammar is `Json.Decodes`, and `Json.FirstFault` is its negation with the fault. That every value
has one or the other (`Json.decodes_or_firstFault`) carries the proofs: with it, what reading does on
either side settles both directions.
-/

namespace MarkupOutline

/-! ## The grammar -/

namespace Json

/-- A value that a field of a node can have: a scalar, an array of such values, or an object that is
a node. A node has the word of its type, the field that the type requires, and such values in the
declared fields that are there. -/
inductive Decodes : Json → Prop
  | scalar (s : Scalar) : Decodes (.scalar s)
  | array {items : List Json} (hitems : ∀ item ∈ items, Decodes item) : Decodes (.array items)
  | node {entries : List (String × Json)} {type : NodeType}
    (htype : Entries.get? typeKey entries = some (.str type.word))
    (hrequired : ∀ name ∈ type.required?, Entries.get? name entries ≠ none)
    (hfields : ∀ name ∈ type.fields, ∀ value, Entries.get? name entries = some value →
      Decodes value) : Decodes (.object entries)

/-- The first fault of a value, in depth-first order. -/
inductive FirstFault : Json → StoredFault → Prop
  /-- The first item of an array that does not decode. -/
  | item {before after : List Json} {item : Json} {fault : StoredFault}
    (hbefore : ∀ i ∈ before, Decodes i) (h : FirstFault item fault) :
    FirstFault (.array (before ++ item :: after)) fault
  /-- An object without a type. -/
  | missingType {entries : List (String × Json)}
    (htype : Entries.get? typeKey entries = none ∨ Entries.get? typeKey entries = some .null) :
    FirstFault (.object entries) .missingType
  /-- An object whose type is an array or an object. -/
  | compoundType {entries : List (String × Json)} {j : Json}
    (htype : Entries.get? typeKey entries = some j) (hj : ∀ s, j ≠ .scalar s) :
    FirstFault (.object entries) .compoundType
  /-- An object whose type is a scalar other than the four words. -/
  | unknownType {entries : List (String × Json)} {s : Scalar}
    (htype : Entries.get? typeKey entries = some (.scalar s)) (hnull : s ≠ .null)
    (hword : ∀ type : NodeType, s ≠ .str type.word) :
    FirstFault (.object entries) (.unknownType s)
  /-- The first declared field that does not decode. -/
  | field {entries : List (String × Json)} {type : NodeType} {before after : List String}
    {name : String} {value : Json} {fault : StoredFault}
    (htype : Entries.get? typeKey entries = some (.str type.word))
    (hfields : type.fields = before ++ name :: after)
    (hbefore : ∀ n ∈ before, ∀ v, Entries.get? n entries = some v → Decodes v)
    (hvalue : Entries.get? name entries = some value) (h : FirstFault value fault) :
    FirstFault (.object entries) fault
  /-- The required field, if it is missing and all declared fields that are there decode. -/
  | missingField {entries : List (String × Json)} {type : NodeType} {name : String}
    (htype : Entries.get? typeKey entries = some (.str type.word))
    (hname : type.required? = some name) (hmissing : Entries.get? name entries = none)
    (hfields : ∀ n ∈ type.fields, ∀ v, Entries.get? n entries = some v → Decodes v) :
    FirstFault (.object entries) (.missingField name)

/-- Two values are the same but for fields of objects that the types of the objects do not declare.
These fields may hold anything, and may be there in one object only. -/
inductive SameDeclared : Json → Json → Prop
  | scalar (s : Scalar) : SameDeclared (.scalar s) (.scalar s)
  | array {items items' : List Json} (hlength : items.length = items'.length)
    (hitems : ∀ (i : Nat) (hi : i < items.length) (hi' : i < items'.length),
      SameDeclared (items.get ⟨i, hi⟩) (items'.get ⟨i, hi'⟩)) :
    SameDeclared (.array items) (.array items')
  | object {entries entries' : List (String × Json)}
    (htype : Entries.get? typeKey entries = Entries.get? typeKey entries')
    (hthere : ∀ type : NodeType, Entries.get? typeKey entries = some (.str type.word) →
      ∀ name ∈ type.fields, (Entries.get? name entries = none ↔ Entries.get? name entries' = none))
    (hfields : ∀ type : NodeType, Entries.get? typeKey entries = some (.str type.word) →
      ∀ name ∈ type.fields, ∀ value value', Entries.get? name entries = some value →
        Entries.get? name entries' = some value' → SameDeclared value value') :
    SameDeclared (.object entries) (.object entries')

/-- An object is a node with a readable type and readable fields, or it has a first fault, as long as
this holds of the values in it. -/
theorem object_decodes_or_firstFault {entries : List (String × Json)}
    (h : ∀ name value, Entries.get? name entries = some value →
      value.Decodes ∨ ∃ fault, value.FirstFault fault) :
    (object entries).Decodes ∨ ∃ fault, (object entries).FirstFault fault := by
  match htype : Entries.get? typeKey entries with
  | none => exact .inr ⟨_, .missingType (.inl htype)⟩
  | some (.array items) => exact .inr ⟨_, .compoundType htype nofun⟩
  | some (.object inner) => exact .inr ⟨_, .compoundType htype nofun⟩
  | some (.scalar s) =>
    by_cases hnull : s = .null
    · exact .inr ⟨_, .missingType (.inr (by rw [htype, hnull]; rfl))⟩
    by_cases hword : ∀ type : NodeType, s ≠ .str type.word
    · exact .inr ⟨_, .unknownType htype hnull hword⟩
    obtain ⟨type, rfl⟩ : ∃ type : NodeType, s = .str type.word := by
      simpa only [not_forall, not_not] using hword
    rcases forall_or_exists_first
        (fun name => ∀ value, Entries.get? name entries = some value → value.Decodes)
        type.fields with hfields | ⟨before, name, after, hfields, hbefore, hname⟩
    · by_cases hrequired : ∀ name ∈ type.required?, Entries.get? name entries ≠ none
      · exact .inl (.node htype hrequired hfields)
      · simp only [not_forall, not_not] at hrequired
        obtain ⟨name, hname, hmissing⟩ := hrequired
        exact .inr ⟨_, .missingField htype hname hmissing hfields⟩
    · simp only [not_forall] at hname
      obtain ⟨value, hvalue, hdecodes⟩ := hname
      obtain ⟨fault, hfault⟩ := (h name value hvalue).resolve_left hdecodes
      exact .inr ⟨fault, .field htype hfields hbefore hvalue hfault⟩

mutual

/-- Every value decodes or has a first fault. -/
theorem decodes_or_firstFault : ∀ j : Json, j.Decodes ∨ ∃ fault, j.FirstFault fault
  | .scalar s => .inl (.scalar s)
  | .array items => by
    have hitems := items_decode_or_firstFault items
    rcases forall_or_exists_first Decodes items with hall | ⟨before, item, after, rfl, hbefore, hitem⟩
    · exact .inl (.array hall)
    · obtain ⟨fault, hfault⟩ := (hitems item (by simp)).resolve_left hitem
      exact .inr ⟨fault, .item hbefore hfault⟩
  | .object entries => object_decodes_or_firstFault (entries_decode_or_firstFault entries)

/-- Every item of an array decodes or has a first fault. -/
theorem items_decode_or_firstFault : ∀ items : List Json, ∀ item ∈ items,
    item.Decodes ∨ ∃ fault, item.FirstFault fault
  | [], _, h => absurd h List.not_mem_nil
  | first :: more, item, h => by
    rcases List.mem_cons.1 h with heq | h
    · rw [heq]
      exact decodes_or_firstFault first
    · exact items_decode_or_firstFault more item h

/-- Every value in an object decodes or has a first fault. -/
theorem entries_decode_or_firstFault : ∀ (entries : List (String × Json)) (name : String)
    (value : Json), Entries.get? name entries = some value →
      value.Decodes ∨ ∃ fault, value.FirstFault fault
  | [], _, _, h => by cases h
  | (key, first) :: more, name, value, h => by
    rw [Entries.get?] at h
    split at h
    · rw [← Option.some.inj h]
      exact decodes_or_firstFault first
    · exact entries_decode_or_firstFault more name value h

end

end Json

/-! ## Reading -/

namespace Draft

/-- A value that decodes is read. -/
theorem exists_ofField {j : Json} (h : j.Decodes) : ∃ d, ofField j = .ok d := by
  induction h with
  | scalar s => exact ⟨_, by rw [ofField]⟩
  | array _ ih =>
    obtain ⟨ds, hds⟩ := exists_mapM_eq_ok ih
    refine ⟨tuple ds, ?_⟩
    rw [ofField, ofItems_eq_mapM, hds]
    rfl
  | @node entries type htype hrequired _ ih =>
    have hgiven : ∀ name ∈ type.required?, given (ofEntries entries) name ≠ none := by
      intro name hname
      obtain ⟨value, hvalue⟩ := Option.ne_none_iff_exists'.1 (hrequired name hname)
      obtain ⟨d, hd⟩ := ih name (NodeType.mem_fields_of_required hname) value hvalue
      rw [given_ofEntries, hvalue, Option.bind_some, hd]
      exact Option.some_ne_none d
    rw [ofField_object htype ih]
    exact NodeType.exists_build_eq_ok hgiven

/-- The first fault of a value is the one that reading it meets. -/
theorem ofField_of_firstFault {j : Json} {fault : StoredFault} (h : j.FirstFault fault) :
    ofField j = .error fault := by
  induction h with
  | item hbefore _ ih =>
    rw [ofField, ofItems_eq_mapM, mapM_eq_error (fun i hi => exists_ofField (hbefore i hi)) ih]
    rfl
  | missingType htype =>
    rw [ofField]
    rcases htype with htype | htype <;> rw [htype] <;> rfl
  | @compoundType _ j htype hj =>
    rw [ofField, htype]
    cases j with
    | scalar s => exact absurd rfl (hj s)
    | array items => rfl
    | object entries => rfl
  | @unknownType _ s htype hnull hword =>
    rw [ofField, htype]
    cases s with
    | null => exact absurd rfl hnull
    | bool b => rfl
    | int n => rfl
    | decimal x => rfl
    | str word =>
      rw [ofFields, NodeType.ofWord?_eq_none fun type heq => hword type (congrArg Scalar.str heq)]
  | field htype hfields hbefore hvalue _ ih =>
    have hread := fun n hn => exists_readField fun v hv => exists_ofField (hbefore n hn v hv)
    rw [ofField, htype, ofFields_word, hfields, mapM_eq_error hread]
    · rfl
    · rw [readField_of_some hvalue, ih]
      rfl
  | missingField htype hname hmissing hfields =>
    rw [ofField_object htype fun n hn v hv => exists_ofField (hfields n hn v hv)]
    refine NodeType.build_eq_error hname ?_
    rw [given_ofEntries, hmissing]
    rfl

/-- A value decodes exactly if it is read. -/
theorem decodes_iff {j : Json} : j.Decodes ↔ ∃ d, ofField j = .ok d := by
  refine ⟨exists_ofField, fun ⟨d, hd⟩ => ?_⟩
  refine j.decodes_or_firstFault.resolve_right fun ⟨fault, hfault⟩ => ?_
  rw [ofField_of_firstFault hfault] at hd
  cases hd

/-- A value has a first fault exactly if reading it meets the fault. -/
theorem firstFault_iff {j : Json} {fault : StoredFault} :
    j.FirstFault fault ↔ ofField j = .error fault := by
  refine ⟨ofField_of_firstFault, fun h => ?_⟩
  rcases j.decodes_or_firstFault with hdecodes | ⟨fault', hfault⟩
  · obtain ⟨d, hd⟩ := exists_ofField hdecodes
    rw [h] at hd
    cases hd
  · rw [ofField_of_firstFault hfault] at h
    rwa [← Except.error.inj h]

/-- Fields that are not declared have no part in what a value is read to. -/
theorem ofField_eq_of_sameDeclared {j j' : Json} (h : j.SameDeclared j') :
    ofField j = ofField j' := by
  induction h with
  | scalar s => rfl
  | array hlength _ ih =>
    rw [ofField, ofField, ofItems_eq_mapM, ofItems_eq_mapM]
    refine congrArg _ (mapM_eq_mapM (List.ext_getElem ?_ fun i hi hi' => ?_))
    · rw [List.length_map, List.length_map, hlength]
    · rw [List.getElem_map, List.getElem_map]
      rw [List.length_map] at hi hi'
      exact ih i hi hi'
  | @object entries entries' htype hthere _ ih =>
    rw [ofField, ofField, ← htype]
    by_cases hword : ∀ type, Entries.get? typeKey entries ≠ some (.str (NodeType.word type))
    · exact ofFields_of_ne_word hword _ _
    simp only [not_forall, not_not] at hword
    obtain ⟨type, hword⟩ := hword
    have hread : ∀ name ∈ type.fields, Entries.get? name (ofEntries entries) =
        Entries.get? name (ofEntries entries') := by
      intro name hname
      rw [get?_ofEntries, get?_ofEntries]
      cases hvalue : Entries.get? name entries with
      | none => rw [(hthere type hword name hname).1 hvalue]
      | some value =>
        have hsome := mt (hthere type hword name hname).2 (by rw [hvalue]; exact Option.some_ne_none _)
        obtain ⟨value', hvalue'⟩ := Option.ne_none_iff_exists'.1 hsome
        rw [hvalue', Option.map_some, Option.map_some,
          ih type hword name hname value value' hvalue hvalue']
    rw [hword, ofFields_word, ofFields_word]
    have hfields : type.fields.map (readField (ofEntries entries)) =
        type.fields.map (readField (ofEntries entries')) :=
      List.map_congr_left fun name hname => by rw [readField, readField, hread name hname]
    have hgiven : ∀ name ∈ type.fields, given (ofEntries entries) name =
        given (ofEntries entries') name :=
      fun name hname => by rw [given, given, hread name hname]
    rw [mapM_eq_mapM hfields, NodeType.build_congr hgiven]

/-- A value is read as a tree exactly if it is an object that decodes. Any other value is refused for
its first fault, and being no object comes before all others. Fields that are not declared have no
part in either, whatever they hold and however deep they are. -/
theorem ofJson_follows_grammar (j : Json) :
    ((∃ d, ofJson j = .ok d) ↔ (∃ entries, j = .object entries) ∧ j.Decodes) ∧
      (∀ fault, ofJson j = .error fault ↔
        (¬ ∃ entries, j = .object entries) ∧ fault = .notObject ∨
          (∃ entries, j = .object entries) ∧ j.FirstFault fault) ∧
      ∀ j' : Json, j.SameDeclared j' → ofJson j' = ofJson j := by
  refine ⟨?_, ?_, ?_⟩
  · rw [decodes_iff]
    cases j with
    | scalar s => simp [ofJson]
    | array items => simp [ofJson]
    | object entries => simp [ofJson]
  · intro fault
    rw [firstFault_iff]
    cases j with
    | scalar s => simp [ofJson, eq_comm]
    | array items => simp [ofJson, eq_comm]
    | object entries => simp [ofJson]
  · intro j' h
    have heq := ofField_eq_of_sameDeclared h
    cases h with
    | scalar s => rfl
    | array => rfl
    | object => exact heq.symm

/-- A stored text is read to the same with a tag that is no tree and with data that are none. -/
theorem ofJson_text_with_extra_fields :
    Json.SameDeclared
        (.object [(typeKey, .str "Text"), ("value", .array [.str "a"]), ("tag", .object [])])
        (.object [("data", .array [.object []]), (typeKey, .str "Text"),
          ("value", .array [.str "a"])]) ∧
      ofJson (.object [("data", .array [.object []]), (typeKey, .str "Text"),
          ("value", .array [.str "a"])]) =
        ofJson (.object [(typeKey, .str "Text"), ("value", .array [.str "a"]),
          ("tag", .object [])]) := by
  have hvalue : Json.SameDeclared (.array [.str "a"]) (.array [.str "a"]) := by
    refine .array rfl fun i hi hi' => ?_
    obtain rfl : i = 0 := Nat.lt_one_iff.1 hi
    exact .scalar _
  have hsame : Json.SameDeclared
      (.object [(typeKey, .str "Text"), ("value", .array [.str "a"]), ("tag", .object [])])
      (.object [("data", .array [.object []]), (typeKey, .str "Text"),
        ("value", .array [.str "a"])]) := by
    have htext (type : NodeType) (h : some (Json.str "Text") = some (.str type.word)) :
        type = .text := by
      injection h with h
      injection h with h
      injection h with h
      exact NodeType.word_injective h.symm
    refine .object rfl (fun type htype name hname => ?_) fun type htype name hname v v' hv hv' => ?_
    · obtain rfl := htext type htype
      obtain rfl := List.mem_singleton.1 hname
      exact iff_of_false nofun nofun
    · obtain rfl := htext type htype
      obtain rfl := List.mem_singleton.1 hname
      cases hv
      cases hv'
      exact hvalue
  exact ⟨hsame, (ofJson_follows_grammar _).2.2 _ hsame⟩

end Draft

end MarkupOutline
