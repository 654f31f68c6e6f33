import MarkupOutline.Draft.Stored
import MarkupOutline.Proofs.Json.Values

/-!
# Loading stored trees

A stored fragment is loaded as it was (`load_store_ofFragment`), and its text is ASCII. The stored
form of any draft is read back to that draft, since it holds every field; that it also survives
being written and read as text needs all scalars of the tree to be texts, as they are in the drafts
of nodes.
-/

namespace MarkupOutline

namespace Draft

/-! ## Reading stored forms -/

mutual

/-- The stored form of a draft is read to the draft. -/
theorem ofField_toJson : ∀ d : Draft, ofField d.toJson = .ok d
  | scalar s => by
    rw [toJson, ofField]
  | tuple items => by
    rw [toJson, ofField, ofItems_toJsons items]
    rfl
  | fragment children => by
    rw [toJson, ofField, ofEntries, ofEntries, ofEntries, ofField_toJson children]
    rfl
  | element tag attributes children => by
    rw [toJson, ofField, ofEntries, ofEntries, ofEntries, ofEntries, ofEntries, ofField_toJson tag,
      ofField_toJson attributes, ofField_toJson children]
    rfl
  | text value => by
    rw [toJson, ofField, ofEntries, ofEntries, ofEntries, ofField_toJson value]
    rfl
  | comment data => by
    rw [toJson, ofField, ofEntries, ofEntries, ofEntries, ofField_toJson data]
    rfl

/-- The stored forms of items are read to the items. -/
theorem ofItems_toJsons : ∀ items : List Draft, ofItems (toJsons items) = .ok items
  | [] => by
    rw [toJsons, ofItems]
  | item :: more => by
    rw [toJsons, ofItems, ofField_toJson item, ofItems_toJsons more]
    rfl

end

/-! ## Stored forms of nodes -/

/-- The stored forms of attributes hold no numbers. -/
theorem areTextual_toJsons_ofAttribute (attributes : List (String × String)) :
    Json.areTextual (toJsons (attributes.map ofAttribute)) = true := by
  induction attributes with
  | nil => rfl
  | cons a more ih =>
    rw [List.map_cons, toJsons, Json.areTextual, ih, Bool.and_true]
    rfl

mutual

/-- The stored form of a node holds no numbers. -/
theorem isTextual_toJson_ofNode : ∀ n : Node, (ofNode n).toJson.isTextual = true
  | .element tag attributes children => by
    have hkeys : [typeKey, "attributes", "children", "tag"].Nodup := by decide
    rw [ofNode, toJson]
    refine Json.isTextual_object hkeys ?_
    simp only [toJson, Json.haveTextual, Json.isTextual, areTextual_toJsons_ofAttribute attributes,
      areTextual_toJsons_ofNodes children]
    rfl
  | .text value => by
    have hkeys : [typeKey, "value"].Nodup := by decide
    exact Json.isTextual_object hkeys rfl
  | .comment data => by
    have hkeys : [typeKey, "data"].Nodup := by decide
    exact Json.isTextual_object hkeys rfl

/-- The stored forms of nodes side by side hold no numbers. -/
theorem areTextual_toJsons_ofNodes : ∀ nodes : List Node,
    Json.areTextual (toJsons (ofNodes nodes)) = true
  | [] => rfl
  | node :: more => by
    rw [ofNodes, toJsons, Json.areTextual, isTextual_toJson_ofNode node,
      areTextual_toJsons_ofNodes more]
    rfl

end

/-- The stored form of a fragment holds no numbers. -/
theorem isTextual_toJson_ofFragment (f : Fragment) : (ofFragment f).toJson.isTextual = true := by
  have hkeys : [typeKey, "children"].Nodup := by decide
  rw [ofFragment, toJson]
  refine Json.isTextual_object hkeys ?_
  simp only [toJson, Json.haveTextual, Json.isTextual, areTextual_toJsons_ofNodes]
  rfl

/-! ## Stored fragments -/

/-- A fragment is stored as ASCII text, and the text is loaded as the fragment, whatever the
indent. -/
theorem load_store_ofFragment (indent : Option Int) (f : Fragment) :
    (∀ c ∈ (store indent (ofFragment f)).toList, c.toNat < 128) ∧
      load (store indent (ofFragment f)) = .ok (ofFragment f) := by
  have htextual := isTextual_toJson_ofFragment f
  refine ⟨fun c hc => Json.lt_of_mem_write indent htextual hc, ?_⟩
  have hread : ofJson (ofFragment f).toJson = .ok (ofFragment f) := ofField_toJson (ofFragment f)
  rw [load, store, Json.read?_write indent htextual]
  dsimp only
  rw [hread]
  rfl

end Draft

end MarkupOutline
