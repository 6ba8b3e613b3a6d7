import EntityQuery.Schema

/-!
# Values

What stored properties hold. A value carries its own shape: signed integers and runes are `int`,
unsigned integers and bytes are `uint`, floats of both widths are `float`. Reading a value as a Lean
type goes through the `as…?` functions, which convert between the two integer shapes where the
number fits and refuse the rest.
-/

namespace EntityQuery

abbrev Bytes := List UInt8

/-- What one property of a record holds. Equality `==` compares floats as numbers, so that a value
that holds no number differs from itself. -/
inductive Value where
  | null
  | bool (b : Bool)
  | int (n : Int64)
  | uint (n : UInt64)
  | float (x : Float)
  | string (s : String)
  | bytes (b : Bytes)
  deriving BEq, Inhabited

namespace Value

/-- The name of the value's shape, as errors give it. -/
def typeName : Value → String
  | null => "NULL"
  | bool _ => "BOOLEAN"
  | int _ => "INTEGER"
  | uint _ => "UNSIGNED"
  | float _ => "FLOAT"
  | string _ => "STRING"
  | bytes _ => "BYTES"

def isNull : Value → Bool
  | null => true
  | _ => false

/-- The number of an integer value, if it fits a signed word. -/
def asInt? : Value → Option Int64
  | int n => some n
  | uint n => if n.toNat ≤ Int64.maxValue.toInt then some (Int64.ofNat n.toNat) else none
  | _ => none

/-- The number of an integer value, if it fits an unsigned word. -/
def asUInt? : Value → Option UInt64
  | uint n => some n
  | int n => if 0 ≤ n.toInt then some (UInt64.ofNat n.toInt.toNat) else none
  | _ => none

def asFloat? : Value → Option Float
  | float x => some x
  | _ => none

def asBool? : Value → Option Bool
  | bool b => some b
  | _ => none

def asString? : Value → Option String
  | string s => some s
  | _ => none

def asBytes? : Value → Option Bytes
  | bytes b => some b
  | _ => none

/-- The number that a value counts as in integer comparisons: integers count as themselves and
truth values as zero and one. -/
def asNumber? : Value → Option Int
  | int n => some n.toInt
  | uint n => some (Int.ofNat n.toNat)
  | bool b => some (if b then 1 else 0)
  | _ => none

end Value

class ToValue (α : Type) where
  toValue : α → Value

export ToValue (toValue)

instance : ToValue Bool := ⟨.bool⟩
instance : ToValue Int8 := ⟨fun n => .int n.toInt64⟩
instance : ToValue Int16 := ⟨fun n => .int n.toInt64⟩
instance : ToValue Int32 := ⟨fun n => .int n.toInt64⟩
instance : ToValue Int64 := ⟨.int⟩
instance : ToValue Char := ⟨fun c => .int (Int64.ofNat c.toNat)⟩
instance : ToValue UInt8 := ⟨fun n => .uint n.toUInt64⟩
instance : ToValue UInt16 := ⟨fun n => .uint n.toUInt64⟩
instance : ToValue UInt32 := ⟨fun n => .uint n.toUInt64⟩
instance : ToValue UInt64 := ⟨.uint⟩
instance : ToValue Float32 := ⟨fun x => .float x.toFloat⟩
instance : ToValue Float := ⟨.float⟩
instance : ToValue String := ⟨.string⟩
instance : ToValue Bytes := ⟨.bytes⟩

/-- A missing member is stored as null. -/
instance {α : Type} [ToValue α] : ToValue (Option α) where
  toValue
    | some a => toValue a
    | none => .null

end EntityQuery
