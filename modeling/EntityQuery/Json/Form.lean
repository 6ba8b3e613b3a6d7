import EntityQuery.Decimal.Reading
import EntityQuery.Decimal.Shortest
import EntityQuery.Json.Parser
import EntityQuery.Json.Text
import EntityQuery.Value

/-!
# Types with a JSON form

* `JsonForm.write` gives the compact text of a member of such a type.
* `JsonForm.read?` reads a text back.

Reading knows how many brackets may be open at once: `room` is the number of brackets that may still
be opened, and each array, object or tagged variant that is entered takes one. What is passed over
takes none.
-/

namespace EntityQuery

namespace Json

/-- How many brackets may be open at once in the part of a text that is read. -/
def maxDepth : Nat := 127

def int? : Json → Option Int
  | number n => n.toInt?
  | _ => none

def intWithin? (low high : Int) (j : Json) : Option Int := do
  let n ← j.int?
  if low ≤ n ∧ n ≤ high then some n else none

def natBelow? (bound : Nat) (j : Json) : Option Nat := do
  let n ← j.int?
  if 0 ≤ n ∧ n < bound then some n.toNat else none

def float? : Json → Option Float
  | number n => n.toFloat?
  | _ => none

def bool? : Json → Option Bool
  | bool b => some b
  | _ => none

def text? : Json → Option String
  | string parts => StringPart.text? parts
  | _ => none

/-- Takes one bracket from the room there is. -/
def enter? : Nat → Option Nat
  | 0 => none
  | room + 1 => some room

/-- The items of an array, and the room inside it. -/
def items? (room : Nat) : Json → Option (List Json × Nat)
  | array items => (enter? room).map (items, ·)
  | _ => none

/-- The members of an object under their names, and the room inside it. -/
def members? (room : Nat) : Json → Option (List (String × Json) × Nat)
  | object members => do
    let room ← enter? room
    -- every name has to be a text, also the names of members that are passed over
    let named ← members.mapM fun (key, value) => (StringPart.text? key).map (·, value)
    return (named, room)
  | _ => none

/-- The only member of a given name. -/
def only? (named : List (String × Json)) (name : String) : Option Json :=
  match named.filter (·.1 == name) with
  | [(_, value)] => some value
  | _ => none

/-- The fields of a structure in their declared order, and the room inside it. They are written as
an object, in which other members may stand too, or as an array of just the fields. -/
def fields? (room : Nat) (names : List String) (j : Json) : Option (List Json × Nat) :=
  match j with
  | array items => do
    let room ← enter? room
    if items.length = names.length then some (items, room) else none
  | _ => do
    let (named, room) ← j.members? room
    let fields ← names.mapM (only? named)
    return (fields, room)

/-- The name of a variant, its content if it is written with one, and the room for the content. -/
def variant? (room : Nat) : Json → Option (String × Option Json × Nat)
  | string parts => do
    let name ← StringPart.text? parts
    return (name, none, room)
  | object [(key, content)] => do
    let room ← enter? room
    let name ← StringPart.text? key
    return (name, some content, room)
  | _ => none

def bareVariant? (room : Nat) (j : Json) : Option String := do
  match ← j.variant? room with
  | (name, none, _) | (name, some null, _) => some name
  | _ => none

/-- An object with a variant's name as the only key. -/
def ofVariant (name : String) (content : Json) : Json :=
  ofMembers [(name, content)]

def ofInt (n : Int) : Json :=
  number (Numeral.ofInt n)

end Json

/-- Floats in JSON keep a point and change to powers of ten below `1e-5` and from `1e16` on. -/
def Layout.json : Layout where
  tie := .toEven
  positional := some (-5, 15)
  keepsPoint := true

class JsonForm (α : Type) where
  toJson : α → Json
  ofJson? (room : Nat) : Json → Option α

namespace JsonForm

def write {α : Type} [JsonForm α] (a : α) : Bytes :=
  (toJson a).bytes

def read? (α : Type) [JsonForm α] (text : Bytes) : Option α := do
  let j ← Json.parse? text
  ofJson? Json.maxDepth j

instance : JsonForm Bool where
  toJson := .bool
  ofJson? _ := Json.bool?

instance : JsonForm Int32 where
  toJson n := .ofInt n.toInt
  ofJson? _ j := (j.intWithin? Int32.minValue.toInt Int32.maxValue.toInt).map Int32.ofInt

instance : JsonForm Int64 where
  toJson n := .ofInt n.toInt
  ofJson? _ j := (j.intWithin? Int64.minValue.toInt Int64.maxValue.toInt).map Int64.ofInt

instance : JsonForm UInt8 where
  toJson n := .ofInt n.toNat
  ofJson? _ j := (j.natBelow? UInt8.size).map UInt8.ofNat

instance : JsonForm UInt32 where
  toJson n := .ofInt n.toNat
  ofJson? _ j := (j.natBelow? UInt32.size).map UInt32.ofNat

instance : JsonForm UInt64 where
  toJson n := .ofInt n.toNat
  ofJson? _ j := (j.natBelow? UInt64.size).map UInt64.ofNat

/-- A float that is no number is written as null, and null is not read as a float. -/
instance : JsonForm Float where
  toJson x := if x.isFinite then .number (Layout.json.numeralOfFloat x) else .null
  ofJson? _ := Json.float?

instance : JsonForm String where
  toJson := .ofString
  ofJson? _ := Json.text?

instance {α : Type} [JsonForm α] : JsonForm (List α) where
  toJson as := .array (as.map toJson)
  ofJson? room j := do
    let (items, room) ← j.items? room
    items.mapM (ofJson? room)

end JsonForm

end EntityQuery
