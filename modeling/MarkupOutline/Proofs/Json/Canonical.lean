import MarkupOutline.Proofs.Json.Grammar
import MarkupOutline.Proofs.Json.Trees

/-!
# Canonical forms of stored trees

Whatever a tree was read from, its stored form is canonical, and the tree is read from that form
again (`toJson_ofJson`). An object in canonical form has the type and all fields that the type declares
and no others, and so have the objects in its fields, however deep they are.

What carries the proof is that writing a value that was read comes to completing it
(`toJson_ofField`): a function on JSON values alone, which drops the fields that are not declared
and writes the missing ones out.
-/

namespace MarkupOutline

/-! ## Completed values -/

/-- The declared fields of a type in the order of their keys, which is the order of writing. -/
def NodeType.storedFields : NodeType → List String
  | fragment => ["children"]
  | element => ["attributes", "children", "tag"]
  | text => ["value"]
  | comment => ["data"]

/-- The stored fields are the declared ones. -/
theorem NodeType.storedFields_perm (type : NodeType) : type.storedFields.Perm type.fields := by
  cases type <;> decide

namespace Json

/-- The type that an object has, if it has one. -/
def type? (entries : List (String × Json)) : Option NodeType :=
  match Entries.get? typeKey entries with
  | some (.scalar (.str word)) => NodeType.ofWord? word
  | _ => none

mutual

/-- A value with exactly the declared fields in each object that is a node. Fields that are missing
are empty. -/
def completed : Json → Json
  | .scalar s => .scalar s
  | .array items => .array (completedItems items)
  | .object entries =>
    match type? entries with
    | none => .object entries
    | some type => .object ((typeKey, .str type.word) :: type.storedFields.map fun name =>
        (name, (Entries.get? name (completedEntries entries)).getD (.array [])))

/-- The completed items of an array. -/
def completedItems : List Json → List Json
  | [] => []
  | item :: more => completed item :: completedItems more

/-- The completed fields of an object. -/
def completedEntries : List (String × Json) → List (String × Json)
  | [] => []
  | (key, value) :: more => (key, completed value) :: completedEntries more

end

/-- Items are completed one by one. -/
theorem completedItems_eq_map (items : List Json) : completedItems items = items.map completed := by
  induction items with
  | nil => rw [completedItems]; rfl
  | cons item more ih => rw [completedItems, ih, List.map_cons]

/-- A field is completed where it stands. -/
theorem get?_completedEntries (name : String) (entries : List (String × Json)) :
    Entries.get? name (completedEntries entries) = (Entries.get? name entries).map completed := by
  induction entries with
  | nil => rw [completedEntries]; rfl
  | cons entry more ih =>
    obtain ⟨key, value⟩ := entry
    rw [completedEntries, Entries.get?, Entries.get?, ih]
    split
    · rfl
    · rfl

/-- A node is completed in its declared fields. -/
theorem completed_object {entries : List (String × Json)} {type : NodeType}
    (htype : Entries.get? typeKey entries = some (.str type.word)) :
    completed (.object entries) =
      .object ((typeKey, .str type.word) :: type.storedFields.map fun name =>
        (name, ((Entries.get? name entries).map completed).getD (.array []))) := by
  have hfound : type? entries = some type := by
    rw [type?, htype, Json.str]
    exact NodeType.ofWord?_word type
  rw [completed, hfound]
  simp only [get?_completedEntries]

/-! ## Canonical values -/

/-- A value in canonical form. A node has its type, every declared field of the type once, and
nothing else. -/
inductive IsCanonical : Json → Prop
  | scalar (s : Scalar) : IsCanonical (.scalar s)
  | array {items : List Json} (hitems : ∀ item ∈ items, IsCanonical item) :
    IsCanonical (.array items)
  | node {entries : List (String × Json)} {type : NodeType}
    (hkeys : (entries.map Prod.fst).Perm (typeKey :: type.fields))
    (htype : Entries.get? typeKey entries = some (.str type.word))
    (hvalues : ∀ entry ∈ entries, IsCanonical entry.2) : IsCanonical (.object entries)

/-- A node written with its type and its stored fields is in canonical form if its fields are. -/
theorem isCanonical_stored {type : NodeType} {entries : List (String × Json)}
    (hkeys : entries.map Prod.fst = type.storedFields)
    (hvalues : ∀ entry ∈ entries, entry.2.IsCanonical) :
    (object ((typeKey, .str type.word) :: entries)).IsCanonical := by
  refine @IsCanonical.node _ type ?_ ?_ ?_
  · rw [List.map_cons, hkeys]
    exact type.storedFields_perm.cons typeKey
  · rw [Entries.get?, if_pos rfl]
  · exact List.forall_mem_cons.2 ⟨.scalar _, hvalues⟩

end Json

namespace Draft

/-! ## Writing what was read -/

/-- The items of a tuple are written one after the other. -/
theorem toJsons_eq_map (items : List Draft) : toJsons items = items.map toJson := by
  induction items with
  | nil => rw [toJsons]; rfl
  | cons item more ih => rw [toJsons, ih, List.map_cons]

/-- What can be built from an optional draft only if it is there shows the draft. -/
theorem exists_of_elim_eq_ok {d? : Option Draft} {fault : StoredFault} {f : Draft → Field} {d : Draft}
    (h : d?.elim (.error fault) f = .ok d) : ∃ d', d? = some d' ∧ f d' = .ok d := by
  cases d? with
  | none => cases h
  | some d' => exact ⟨d', rfl, h⟩

/-- A node that was built is written with the given fields, and those that are missing are empty. -/
theorem toJson_of_build {type : NodeType} {given : String → Option Draft} {d : Draft}
    (h : type.build given = .ok d) :
    d.toJson = .object ((typeKey, .str type.word) :: type.storedFields.map fun name =>
      (name, ((given name).map toJson).getD (.array []))) := by
  have hoptional (name : String) : toJson ((given name).getD (tuple [])) =
      ((given name).map toJson).getD (.array []) := by
    rw [← toJsons, ← toJson, Option.getD_map]
  cases type with
  | fragment =>
    obtain rfl := Except.ok.inj h
    rw [toJson, hoptional]
    rfl
  | element =>
    obtain ⟨tag, htag, h⟩ := exists_of_elim_eq_ok h
    obtain rfl := Except.ok.inj h
    rw [toJson, hoptional, hoptional, NodeType.storedFields, List.map_cons, List.map_cons,
      List.map_cons, htag]
    rfl
  | text | comment =>
    obtain ⟨value, hvalue, h⟩ := exists_of_elim_eq_ok h
    obtain rfl := Except.ok.inj h
    rw [toJson, NodeType.storedFields, List.map_cons, hvalue]
    rfl

/-- Writing what a value was read to completes the value. -/
theorem toJson_ofField {j : Json} (h : j.Decodes) :
    ∀ d, ofField j = .ok d → d.toJson = j.completed := by
  induction h with
  | scalar s =>
    intro d hd
    rw [ofField] at hd
    rw [← Except.ok.inj hd, toJson, Json.completed]
  | @array items _ ih =>
    intro d hd
    rw [ofField, ofItems_eq_mapM] at hd
    cases hds : items.mapM ofField with
    | error fault => rw [hds] at hd; cases hd
    | ok ds =>
      rw [hds] at hd
      obtain rfl := Except.ok.inj hd
      rw [toJson, toJsons_eq_map, map_eq_map_of_mapM_eq_ok ih hds, Json.completed,
        Json.completedItems_eq_map]
  | @node entries type htype hrequired hfields ih =>
    intro d hd
    rw [ofField_object htype fun name hname value hvalue =>
      exists_ofField (hfields name hname value hvalue)] at hd
    rw [toJson_of_build hd, Json.completed_object htype]
    have hgiven : ∀ name ∈ type.storedFields,
        (given (ofEntries entries) name).map toJson =
          (Entries.get? name entries).map Json.completed := by
      intro name hname
      have hdeclared := type.storedFields_perm.mem_iff.1 hname
      rw [given_ofEntries]
      cases hvalue : Entries.get? name entries with
      | none => rfl
      | some value =>
        obtain ⟨d, hd⟩ := exists_ofField (hfields name hdeclared value hvalue)
        rw [Option.bind_some, hd, Option.map_some, ← ih name hdeclared value hvalue d hd]
        rfl
    have hentries : (type.storedFields.map fun name =>
        (name, ((given (ofEntries entries) name).map toJson).getD (.array []))) =
        type.storedFields.map fun name =>
          (name, ((Entries.get? name entries).map Json.completed).getD (.array [])) :=
      List.map_congr_left fun name hname => by rw [hgiven name hname]
    rw [hentries]

mutual

/-- Every draft is written in canonical form. -/
theorem isCanonical_toJson : ∀ d : Draft, d.toJson.IsCanonical
  | scalar s => by
    rw [toJson]
    exact .scalar s
  | tuple items => by
    rw [toJson]
    exact .array (isCanonical_toJsons items)
  | fragment children => by
    rw [toJson]
    refine Json.isCanonical_stored rfl ?_
    exact List.forall_mem_singleton.2 (isCanonical_toJson children)
  | element tag attributes children => by
    rw [toJson]
    refine Json.isCanonical_stored rfl ?_
    simp only [List.forall_mem_cons]
    exact ⟨isCanonical_toJson attributes, isCanonical_toJson children, isCanonical_toJson tag, nofun⟩
  | text value => by
    rw [toJson]
    refine Json.isCanonical_stored rfl ?_
    exact List.forall_mem_singleton.2 (isCanonical_toJson value)
  | comment data => by
    rw [toJson]
    refine Json.isCanonical_stored rfl ?_
    exact List.forall_mem_singleton.2 (isCanonical_toJson data)

/-- The items of a tuple are written in canonical form. -/
theorem isCanonical_toJsons : ∀ items : List Draft, ∀ j ∈ toJsons items, j.IsCanonical
  | [], j, h => by
    rw [toJsons] at h
    exact absurd h List.not_mem_nil
  | item :: more, j, h => by
    rw [toJsons] at h
    rcases List.mem_cons.1 h with heq | hmore
    · rw [heq]
      exact isCanonical_toJson item
    · exact isCanonical_toJsons more j hmore

end

/-! ## Trees read back -/

/-- A value that is read as a tree is an object, and it is read as any field is. -/
theorem ofField_of_ofJson {j : Json} {d : Draft} (h : ofJson j = .ok d) :
    (∃ entries, j = .object entries) ∧ ofField j = .ok d := by
  cases j with
  | scalar s => cases h
  | array items => cases h
  | object entries => exact ⟨⟨entries, rfl⟩, h⟩

/-- Whatever a tree was read from, it is read again from its stored form. That form is canonical: it
completes what the tree was read from, and writing the tree that is read from it gives it again. -/
theorem toJson_ofJson (j : Json) (d : Draft) (h : ofJson j = .ok d) :
    ofJson d.toJson = .ok d ∧ d.toJson.IsCanonical ∧ d.toJson = j.completed ∧
      (ofJson d.toJson).map toJson = .ok d.toJson := by
  obtain ⟨⟨entries, rfl⟩, hfield⟩ := ofField_of_ofJson h
  have hdecodes : (Json.object entries).Decodes := decodes_iff.2 ⟨d, hfield⟩
  have hcompleted := toJson_ofField hdecodes d hfield
  have hread : ofJson d.toJson = .ok d := by
    obtain ⟨inner, hinner⟩ : ∃ inner, d.toJson = .object inner := by
      rw [hcompleted, Json.completed]
      split
      · exact ⟨_, rfl⟩
      · exact ⟨_, rfl⟩
    have hback := ofField_toJson d
    rw [hinner] at hback ⊢
    exact hback
  refine ⟨hread, isCanonical_toJson d, hcompleted, ?_⟩
  rw [hread]
  rfl

/-- An element whose tag is a fragment, whose attributes are missing, and whose children are a
number, with a field that is not declared. -/
theorem toJson_ofJson_element :
    ofJson (.object [("value", .object []), ("children", .scalar (.int 7)), (typeKey, .str "Element"),
        ("tag", .object [(typeKey, .str "Fragment")])]) =
        .ok (.element (.fragment (.tuple [])) (.tuple []) (.scalar (.int 7))) ∧
      toJson (.element (.fragment (.tuple [])) (.tuple []) (.scalar (.int 7))) =
        .object [(typeKey, .str "Element"), ("attributes", .array []), ("children", .scalar (.int 7)),
          ("tag", .object [(typeKey, .str "Fragment"), ("children", .array [])])] ∧
      ofJson (toJson (.element (.fragment (.tuple [])) (.tuple []) (.scalar (.int 7)))) =
        .ok (.element (.fragment (.tuple [])) (.tuple []) (.scalar (.int 7))) := by
  refine ⟨rfl, rfl, ?_⟩
  exact (toJson_ofJson (.object [("value", .object []), ("children", .scalar (.int 7)),
    (typeKey, .str "Element"), ("tag", .object [(typeKey, .str "Fragment")])]) _ rfl).1

end Draft

end MarkupOutline
