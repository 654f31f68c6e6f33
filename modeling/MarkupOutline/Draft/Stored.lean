import MarkupOutline.Draft.Basic
import MarkupOutline.Json.Reading
import MarkupOutline.Json.Writing

/-!
# Stored trees

Trees are stored as JSON. A node becomes an object with its type and all its fields, a tuple an
array, and a scalar itself. Reading back is lenient: fields that the type does not declare are
ignored whatever they hold, missing children and attributes are taken to be empty, and a field may
hold anything that can be read. Writing keeps the entries of an object in the order of their keys.
-/

namespace MarkupOutline

/-- The types of nodes. -/
inductive NodeType where
  | fragment
  | element
  | text
  | comment
  deriving DecidableEq, Repr

namespace NodeType

/-- The word that stands for a type in stored form. -/
def word : NodeType → String
  | fragment => "Fragment"
  | element => "Element"
  | text => "Text"
  | comment => "Comment"

/-- The type that a word stands for. -/
def ofWord? (s : String) : Option NodeType :=
  [fragment, element, text, comment].find? (·.word = s)

end NodeType

/-- The key under which a stored node has its type. -/
def typeKey : String := "_type"

/-- Why stored data are not a tree. -/
inductive StoredFault where
  /-- Something other than an object stands where a node is stored. -/
  | notObject
  /-- A node has no type, or the absent value for its type. -/
  | missingType
  /-- The type of a node is an array or an object. -/
  | compoundType
  /-- The type of a node is a scalar that names no type. -/
  | unknownType (given : Scalar)
  /-- A field that must be there is not. -/
  | missingField (name : String)
  deriving DecidableEq, Repr

/-- The message of a fault, none for those that have no wording of their own. -/
def StoredFault.message? : StoredFault → Option String
  | missingType => some "Missing '_type' field in serialized node"
  | unknownType given => some ("Unknown node type: " ++ given.literal)
  | _ => none

namespace Draft

/-! ## Writing -/

mutual

/-- The stored form of a draft. -/
def toJson : Draft → Json
  | scalar s => .scalar s
  | tuple items => .array (toJsons items)
  | fragment children =>
    .object [(typeKey, .str NodeType.fragment.word), ("children", toJson children)]
  | element tag attributes children =>
    .object [(typeKey, .str NodeType.element.word), ("attributes", toJson attributes),
      ("children", toJson children), ("tag", toJson tag)]
  | text value => .object [(typeKey, .str NodeType.text.word), ("value", toJson value)]
  | comment data => .object [(typeKey, .str NodeType.comment.word), ("data", toJson data)]

/-- The stored forms of the items of a tuple. -/
def toJsons : List Draft → List Json
  | [] => []
  | item :: more => toJson item :: toJsons more

end

/-! ## Reading -/

/-- What a field was read to. -/
abbrev Field := Except StoredFault Draft

/-- A field that may be missing, with the draft it then counts as. -/
def optionalField (fields : List (String × Field)) (name : String) (missing : Draft) : Field :=
  (Entries.get? name fields).getD (.ok missing)

/-- A field that must be there. -/
def requiredField (fields : List (String × Field)) (name : String) : Field :=
  (Entries.get? name fields).getD (.error (.missingField name))

/-- An element from its fields. A fault inside a field that is there is found before the tag is
missed. -/
def elementOfFields (fields : List (String × Field)) : Field := do
  let tag? ← (Entries.get? "tag" fields).mapM id
  let attributes ← optionalField fields "attributes" (tuple [])
  let children ← optionalField fields "children" (tuple [])
  match tag? with
  | some tag => pure (element tag attributes children)
  | none => throw (.missingField "tag")

/-- A node from its stored type and its fields, each of them read already. -/
def ofFields (type? : Option Json) (fields : List (String × Field)) : Field :=
  match type? with
  | none | some (.scalar .null) => .error .missingType
  | some (.array _) | some (.object _) => .error .compoundType
  | some (.scalar (.str word)) =>
    match NodeType.ofWord? word with
    | some .fragment => (optionalField fields "children" (tuple [])).map fragment
    | some .element => elementOfFields fields
    | some .text => (requiredField fields "value").map text
    | some .comment => (requiredField fields "data").map comment
    | none => .error (.unknownType (.str word))
  | some (.scalar other) => .error (.unknownType other)

mutual

/-- The draft that a field holds: a node if it is an object, a tuple if it is an array. -/
def ofField : Json → Field
  | .scalar s => .ok (scalar s)
  | .array items => (ofItems items).map tuple
  | .object entries => ofFields (Entries.get? typeKey entries) (ofEntries entries)

/-- The drafts of the items of an array; the first fault counts. -/
def ofItems : List Json → Except StoredFault (List Draft)
  | [] => .ok []
  | item :: more => do
    let first ← ofField item
    let rest ← ofItems more
    pure (first :: rest)

/-- The fields of an object, each read on its own. -/
def ofEntries : List (String × Json) → List (String × Field)
  | [] => []
  | (key, value) :: more => (key, ofField value) :: ofEntries more

end

/-- The node that is stored as a JSON value. -/
def ofJson (j : Json) : Field :=
  match j with
  | .object _ => ofField j
  | _ => .error .notObject

/-! ## Stored fragments -/

/-- Why a text is not a stored fragment. -/
inductive ReadFault where
  /-- The text is not JSON. -/
  | notJson
  /-- The JSON value is not a tree. -/
  | notTree (fault : StoredFault)
  /-- The tree is no fragment. -/
  | notFragment (typeName : String)
  deriving DecidableEq, Repr

/-- The message of a fault, none for those that have no wording of their own. -/
def ReadFault.message? : ReadFault → Option String
  | notJson => none
  | notTree fault => fault.message?
  | notFragment typeName => some ("Expected Fragment, got " ++ typeName)

/-- The text that a tree is stored as. -/
def store (indent : Option Int) (d : Draft) : String := d.toJson.write indent

/-- The fragment that a text stores. -/
def load (text : String) : Except ReadFault Draft :=
  match Json.read? text with
  | none => .error .notJson
  | some j =>
    match ofJson j with
    | .error fault => .error (.notTree fault)
    | .ok (fragment children) => .ok (fragment children)
    | .ok other => .error (.notFragment other.typeName)

end Draft

end MarkupOutline
