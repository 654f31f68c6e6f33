import MarkupOutline.Draft.Stored
import MarkupOutline.Proofs.Traversal

/-!
# Reading the declared fields of a node

Each type of node declares its fields. A node is read by reading the declared fields in their order
and then building it from what they hold (`Draft.ofFields_word`), for all types alike; an object
without the word of a type is refused whatever its fields are (`Draft.ofFields_of_ne_word`). So a
statement about reading needs no case for each type.
-/

namespace MarkupOutline

/-! ## Declared fields -/

namespace NodeType

/-- The fields that a type declares, in the order in which they are read. -/
def fields : NodeType → List String
  | fragment => ["children"]
  | element => ["tag", "attributes", "children"]
  | text => ["value"]
  | comment => ["data"]

/-- The declared field that a node of a type cannot do without, if there is one. -/
def required? : NodeType → Option String
  | fragment => none
  | element => some "tag"
  | text => some "value"
  | comment => some "data"

/-- A type is found by its word. -/
theorem ofWord?_word (type : NodeType) : ofWord? type.word = some type := by
  cases type <;> decide

/-- A type that is found has the word. -/
theorem word_eq_of_ofWord? {s : String} {type : NodeType} (h : ofWord? s = some type) :
    type.word = s := by
  have hword := List.find?_some h
  exact of_decide_eq_true hword

/-- Two types have two words. -/
theorem word_injective : Function.Injective word := by
  intro type type' h
  have hfound := ofWord?_word type
  rw [h, ofWord?_word type'] at hfound
  exact (Option.some.inj hfound).symm

/-- No type is found by a word that none of them has. -/
theorem ofWord?_eq_none {s : String} (h : ∀ type : NodeType, s ≠ type.word) : ofWord? s = none := by
  rw [Option.eq_none_iff_forall_ne_some]
  intro type htype
  exact h type (word_eq_of_ofWord? htype).symm

/-- A required field is declared. -/
theorem mem_fields_of_required {type : NodeType} {name : String} (h : name ∈ type.required?) :
    name ∈ type.fields := by
  cases type with
  | fragment => cases h
  | element | text | comment =>
    obtain rfl := Option.some.inj h
    exact List.mem_cons_self

/-- The node of a type with the given fields. A field that is missing is empty unless it is
required. -/
def build (given : String → Option Draft) : NodeType → Draft.Field
  | fragment => .ok (.fragment ((given "children").getD (.tuple [])))
  | element => (given "tag").elim (.error (.missingField "tag")) fun tag =>
    .ok (.element tag ((given "attributes").getD (.tuple [])) ((given "children").getD (.tuple [])))
  | text => (given "value").elim (.error (.missingField "value")) fun value => .ok (.text value)
  | comment => (given "data").elim (.error (.missingField "data")) fun data => .ok (.comment data)

/-- A node whose required field is given can be built. -/
theorem exists_build_eq_ok {type : NodeType} {given : String → Option Draft}
    (h : ∀ name ∈ type.required?, given name ≠ none) : ∃ d, type.build given = .ok d := by
  cases type with
  | fragment => exact ⟨_, rfl⟩
  | element | text | comment =>
    obtain ⟨d, hd⟩ := Option.ne_none_iff_exists'.1 (h _ rfl)
    rw [build, hd]
    exact ⟨_, rfl⟩

/-- A node whose required field is missing cannot be built. -/
theorem build_eq_error {type : NodeType} {given : String → Option Draft} {name : String}
    (hname : type.required? = some name) (h : given name = none) :
    type.build given = .error (.missingField name) := by
  cases type with
  | fragment => cases hname
  | element | text | comment =>
    obtain rfl := Option.some.inj hname
    rw [build, h]
    rfl

/-- A node is built from its declared fields alone. -/
theorem build_congr {type : NodeType} {given given' : String → Option Draft}
    (h : ∀ name ∈ type.fields, given name = given' name) : type.build given = type.build given' := by
  cases type with
  | fragment => rw [build, build, h "children" (by decide)]
  | element =>
    rw [build, build, h "tag" (by decide), h "attributes" (by decide), h "children" (by decide)]
  | text => rw [build, build, h "value" (by decide)]
  | comment => rw [build, build, h "data" (by decide)]

end NodeType

namespace Draft

/-- The items of an array are read one after the other. -/
theorem ofItems_eq_mapM (items : List Json) : ofItems items = items.mapM ofField := by
  induction items with
  | nil => rw [ofItems]; rfl
  | cons item more ih =>
    rw [ofItems, List.mapM_cons, ih]

/-- A field of an object is read where it stands. -/
theorem get?_ofEntries (name : String) (entries : List (String × Json)) :
    Entries.get? name (ofEntries entries) = (Entries.get? name entries).map ofField := by
  induction entries with
  | nil => rw [ofEntries]; rfl
  | cons entry more ih =>
    obtain ⟨key, value⟩ := entry
    rw [ofEntries, Entries.get?, Entries.get?, ih]
    split
    · rfl
    · rfl

/-- A field is read if it is there. -/
def readField (fields : List (String × Field)) (name : String) :
    Except StoredFault (Option Draft) :=
  (Entries.get? name fields).mapM id

/-- What a field holds, if it is there and has been read. -/
def given (fields : List (String × Field)) (name : String) : Option Draft :=
  (Entries.get? name fields).bind Except.toOption

/-- What a field holds is what it is read to. -/
theorem given_eq {fields : List (String × Field)} {name : String} {d? : Option Draft}
    (h : readField fields name = .ok d?) : given fields name = d? := by
  unfold readField at h
  unfold given
  cases hget : Entries.get? name fields with
  | none =>
    rw [hget] at h
    exact Except.ok.inj h
  | some r =>
    rw [hget] at h
    cases r with
    | error fault => cases h
    | ok d => exact Except.ok.inj h

/-- A field that may be missing is read, and then counts as something if it is not there. -/
theorem optionalField_eq (fields : List (String × Field)) (name : String) (missing : Draft) :
    optionalField fields name missing = (readField fields name).map (·.getD missing) := by
  unfold optionalField readField
  cases Entries.get? name fields with
  | none => rfl
  | some r => cases r <;> rfl

/-- A node with one field, which is required, is read by reading the field, which is then a fault if
it is not there. -/
theorem map_requiredField (fields : List (String × Field)) (name : String) (node : Draft → Draft) :
    (requiredField fields name).map node =
      [name].mapM (readField fields) >>= fun _ =>
        (given fields name).elim (.error (.missingField name)) fun d => .ok (node d) := by
  unfold requiredField readField given
  rw [List.mapM_cons]
  cases Entries.get? name fields with
  | none => rfl
  | some r => cases r <;> rfl

/-- A node with the word of a type is read by reading the declared fields in order and building the
node from what they hold. -/
theorem ofFields_word (type : NodeType) (fields : List (String × Field)) :
    ofFields (some (.str type.word)) fields =
      type.fields.mapM (readField fields) >>= fun _ => type.build (given fields) := by
  rw [Json.str, ofFields, NodeType.ofWord?_word]
  cases type with
  | fragment =>
    rw [NodeType.fields, List.mapM_cons, NodeType.build]
    dsimp only
    rw [optionalField_eq]
    cases h : readField fields "children" with
    | error fault => rfl
    | ok children => rw [given_eq h]; rfl
  | element =>
    rw [NodeType.fields, List.mapM_cons, List.mapM_cons, List.mapM_cons, NodeType.build]
    dsimp only
    rw [elementOfFields, optionalField_eq, optionalField_eq, ← readField]
    cases htag : readField fields "tag" with
    | error fault => rfl
    | ok tag =>
      cases hattributes : readField fields "attributes" with
      | error fault => rfl
      | ok attributes =>
        cases hchildren : readField fields "children" with
        | error fault => rfl
        | ok children =>
          rw [given_eq htag, given_eq hattributes, given_eq hchildren]
          cases tag <;> rfl
  | text => exact map_requiredField fields "value" text
  | comment => exact map_requiredField fields "data" comment

/-- A node without the word of a type is not read, and its fields have no part in that. -/
theorem ofFields_of_ne_word {type? : Option Json} (h : ∀ type, type? ≠ some (.str (NodeType.word type)))
    (fields fields' : List (String × Field)) : ofFields type? fields = ofFields type? fields' := by
  match type? with
  | none => rfl
  | some (.array _) => rfl
  | some (.object _) => rfl
  | some (.scalar .null) => rfl
  | some (.scalar (.bool _)) => rfl
  | some (.scalar (.int _)) => rfl
  | some (.scalar (.decimal _)) => rfl
  | some (.scalar (.str word)) =>
    have hword : NodeType.ofWord? word = none :=
      NodeType.ofWord?_eq_none fun type heq => h type (by rw [heq]; rfl)
    rw [ofFields, ofFields, hword]

/-! ### Fields of objects -/

/-- A field of an object is read to nothing if it is not there. -/
theorem readField_of_none {entries : List (String × Json)} {name : String}
    (h : Entries.get? name entries = none) : readField (ofEntries entries) name = .ok none := by
  rw [readField, get?_ofEntries, h]
  rfl

/-- A field of an object is read to the draft that its value is read to. -/
theorem readField_of_some {entries : List (String × Json)} {name : String} {value : Json}
    (h : Entries.get? name entries = some value) :
    readField (ofEntries entries) name = (ofField value).map some := by
  rw [readField, get?_ofEntries, h]
  rfl

/-- A field whose value decodes is read. -/
theorem exists_readField {entries : List (String × Json)} {name : String}
    (h : ∀ value, Entries.get? name entries = some value → ∃ d, ofField value = .ok d) :
    ∃ d?, readField (ofEntries entries) name = .ok d? := by
  cases hget : Entries.get? name entries with
  | none => exact ⟨none, readField_of_none hget⟩
  | some value =>
    obtain ⟨d, hd⟩ := h value hget
    refine ⟨some d, ?_⟩
    rw [readField_of_some hget, hd]
    rfl

/-- What a field of an object holds is what its value is read to, if that can be done. -/
theorem given_ofEntries (name : String) (entries : List (String × Json)) :
    given (ofEntries entries) name =
      (Entries.get? name entries).bind fun value => (ofField value).toOption := by
  rw [given, get?_ofEntries, Option.bind_map]
  rfl

/-- An object with the word of a type is built from its declared fields if all that are there are
read. -/
theorem ofField_object {entries : List (String × Json)} {type : NodeType}
    (htype : Entries.get? typeKey entries = some (.str type.word))
    (h : ∀ name ∈ type.fields, ∀ value, Entries.get? name entries = some value →
      ∃ d, ofField value = .ok d) :
    ofField (.object entries) = type.build (given (ofEntries entries)) := by
  obtain ⟨ds, hds⟩ := exists_mapM_eq_ok fun name hname => exists_readField (h name hname)
  rw [ofField, htype, ofFields_word, hds]
  rfl

end Draft

end MarkupOutline
