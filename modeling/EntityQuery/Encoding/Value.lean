import EntityQuery.Json.Form
import EntityQuery.Table

/-!
# Values and property maps in JSON

A value is tagged beside its content, and null has no content. A property map is an object whose
member names are the property ids in ascending order.
-/

namespace EntityQuery

namespace Value

def tag : Value → String
  | null => "Null"
  | bool _ => "Bool"
  | int _ => "Int"
  | uint _ => "UInt"
  | float _ => "Float"
  | string _ => "String"
  | bytes _ => "Bytes"

/-- What stands beside the tag in JSON; null has nothing there. -/
def content? : Value → Option Json
  | null => none
  | bool b => some (JsonForm.toJson b)
  | int n => some (JsonForm.toJson n)
  | uint n => some (JsonForm.toJson n)
  | float x => some (JsonForm.toJson x)
  | string s => some (JsonForm.toJson s)
  | bytes b => some (JsonForm.toJson b)

/-- The value with a given tag and content. Only null may lack its content. -/
def ofTagged? (room : Nat) (tag : String) (content? : Option Json) : Option Value :=
  match tag, content? with
  | "Null", none | "Null", some .null => some .null
  | "Bool", some j => (JsonForm.ofJson? room j).map .bool
  | "Int", some j => (JsonForm.ofJson? room j).map .int
  | "UInt", some j => (JsonForm.ofJson? room j).map .uint
  | "Float", some j => (JsonForm.ofJson? room j).map .float
  | "String", some j => (JsonForm.ofJson? room j).map .string
  | "Bytes", some j => (JsonForm.ofJson? room j).map .bytes
  | _, _ => none

/-- A value is written with its tag first and its content second. It is read from an object with
both in either order, or from a pair whose first item is the tag as plain text. -/
instance : JsonForm Value where
  toJson v := .ofMembers (("type", .ofString v.tag) ::
    (match v.content? with
      | some j => [("value", j)]
      | none => []))
  ofJson? room
    | .array [tag, content] => do
      let room ← Json.enter? room
      ofTagged? room (← tag.text?) (some content)
    | j => do
      let (named, room) ← j.members? room
      let tag ← Json.only? named "type"
      -- two contents are refused; whether there may be none is for the tag to say
      let content? ← match named.filter (·.1 == "value") with
        | [] => some none
        | [(_, content)] => some (some content)
        | _ => none
      ofTagged? room (← tag.bareVariant? room) content?

end Value

instance : JsonForm PropertyId where
  toJson p := JsonForm.toJson p.val
  ofJson? room j := (JsonForm.ofJson? room j).map PropertyId.mk

instance : JsonForm ObjectId where
  toJson o := JsonForm.toJson o.val
  ofJson? room j := (JsonForm.ofJson? room j).map ObjectId.mk

namespace PropertyId

/-- The property that a member name stands for: plain digits, no escapes and no leading zeros. -/
def ofKey? (key : List StringPart) : Option PropertyId := do
  let digits ← key.mapM fun
    | .byte b => if isDigit b then some (Char.ofNat b.toNat) else none
    | _ => none
  -- a single zero is a number, a zero in front of others is not
  guard (!digits.isEmpty && (digits.head? != some '0' || digits.length == 1))
  let n := Nat.ofDigitChars 10 digits 0
  if n < UInt32.size then some ⟨UInt32.ofNat n⟩ else none

end PropertyId

abbrev PropertyMap := Table PropertyId Value

namespace PropertyMap

/-- A property map is an object whose member names are property ids. Of equal names the last
counts. -/
instance : JsonForm PropertyMap where
  toJson m := .ofMembers (m.toList.map fun (p, v) => (p.text, JsonForm.toJson v))
  ofJson? room
    | .object members => do
      let room ← Json.enter? room
      let pairs ← members.mapM fun (key, content) => do
        return (← PropertyId.ofKey? key, ← JsonForm.ofJson? room content)
      return Table.ofList pairs
    | _ => none

end PropertyMap

end EntityQuery
