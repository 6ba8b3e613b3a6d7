import EntityQuery.Encoding.Value
import EntityQuery.Error

/-!
# Stored records

A record is an object's id and its property values, and is stored as the bytes of its JSON text. A
property that a record does not hold reads as null.
-/

namespace EntityQuery

structure Record where
  id : ObjectId
  properties : PropertyMap
  deriving BEq, Inhabited

namespace Record

instance : JsonForm Record where
  toJson r := .ofMembers [("id", JsonForm.toJson r.id),
    ("properties", JsonForm.toJson r.properties)]
  ofJson? room j := do
    match ← j.fields? room ["id", "properties"] with
    | ([id, properties], room) =>
      return ⟨← JsonForm.ofJson? room id, ← JsonForm.ofJson? room properties⟩
    | _ => none

def encode (r : Record) : Bytes :=
  JsonForm.write r

def decode (bytes : Bytes) : Except Error Record :=
  match JsonForm.read? Record bytes with
  | some r => .ok r
  | none => .error (.decode "malformed record")

/-- The value of a property; a property that is not there reads as null. -/
def value (r : Record) (p : PropertyId) : Value :=
  (r.properties.get? p).getD .null

end Record

end EntityQuery
