import EntityQuery.Encoding.Value
import EntityQuery.Schema

/-!
# Schemas and names in JSON

Ids are written as numbers and schemas as objects. The names of kinds and transaction modes are
written as strings, and may also be read from the only key of an object that holds null.
-/

namespace EntityQuery

instance : JsonForm EntityId where
  toJson e := JsonForm.toJson e.val
  ofJson? room j := (JsonForm.ofJson? room j).map EntityId.mk

instance : JsonForm TxId where
  toJson t := JsonForm.toJson t.val
  ofJson? room j := (JsonForm.ofJson? room j).map TxId.mk

instance : JsonForm ConditionId where
  toJson c := .ofMembers [("builder", JsonForm.toJson c.builder),
    ("index", JsonForm.toJson c.index)]
  ofJson? room j := do
    match ← j.fields? room ["builder", "index"] with
    | ([builder, index], room) =>
      return ⟨← JsonForm.ofJson? room builder, ← JsonForm.ofJson? room index⟩
    | _ => none

instance : JsonForm TxMode where
  toJson m := .ofString m.name
  ofJson? room j := (j.bareVariant? room).bind TxMode.ofName?

instance : JsonForm Kind where
  toJson k := .ofString k.name
  ofJson? room j := (j.bareVariant? room).bind Kind.ofName?

instance : JsonForm Property where
  toJson p := .ofMembers [("id", JsonForm.toJson p.id), ("entity", JsonForm.toJson p.entity),
    ("name", JsonForm.toJson p.name), ("kind", JsonForm.toJson p.kind)]
  ofJson? room j := do
    match ← j.fields? room ["id", "entity", "name", "kind"] with
    | ([id, entity, name, kind], room) =>
      return ⟨← JsonForm.ofJson? room id, ← JsonForm.ofJson? room entity,
        ← JsonForm.ofJson? room name, ← JsonForm.ofJson? room kind⟩
    | _ => none

instance : JsonForm EntityModel where
  toJson m := .ofMembers [("id", JsonForm.toJson m.id), ("name", JsonForm.toJson m.name),
    ("properties", JsonForm.toJson m.properties)]
  ofJson? room j := do
    match ← j.fields? room ["id", "name", "properties"] with
    | ([id, name, properties], room) =>
      return ⟨← JsonForm.ofJson? room id, ← JsonForm.ofJson? room name,
        ← JsonForm.ofJson? room properties⟩
    | _ => none

end EntityQuery
