import EntityQuery.Record

/-!
# Typed reads

A `ReadType` names a type that a property can be read as, and `ReadType.Carrier` is that type.
Integers of either sign convert where the number fits; everything else is refused with the type that
was wanted and the shape that was found. A value does not know where it stands, so the property to
blame is filled in when a record is read (`Error.blaming`).
-/

namespace EntityQuery

/-- The same error, with another property to blame for a value of the wrong shape. -/
def Error.blaming (p : PropertyId) : Error → Error
  | .typeMismatch _ expected got => .typeMismatch p expected got
  | e => e

/-- A type that a value can be read as. -/
inductive ReadType where
  | string
  | int64
  | int32
  | uint64
  | uint32
  | float
  | bool
  | bytes
  /-- A type or nothing, where null reads as nothing. -/
  | optional (inner : ReadType)
  deriving DecidableEq, Repr, Inhabited

namespace ReadType

@[reducible]
def Carrier : ReadType → Type
  | string => String
  | int64 => Int64
  | int32 => Int32
  | uint64 => UInt64
  | uint32 => UInt32
  | float => Float
  | bool => Bool
  | bytes => Bytes
  | optional inner => Option inner.Carrier

/-- What a refusal says was wanted. -/
def expected : ReadType → String
  | string => "STRING"
  | int64 | int32 => "INTEGER"
  | uint64 | uint32 => "UNSIGNED"
  | float => "FLOAT"
  | bool => "BOOLEAN"
  | bytes => "BYTES"
  | optional inner => inner.expected

/-- What was read of a value, or that it has the wrong shape. Which property the value stands under
is not known here, so the refusal blames property zero. -/
def orMismatch (t : ReadType) (v : Value) : Option t.Carrier → Except Error t.Carrier
  | some a => .ok a
  | none => .error (.typeMismatch ⟨0⟩ t.expected v.typeName)

/-- The member of the type that a value stands for. -/
def fromValue : (t : ReadType) → Value → Except Error t.Carrier
  | string, v => string.orMismatch v v.asString?
  | int64, v => int64.orMismatch v v.asInt?
  | int32, v => int32.orMismatch v <| v.asInt?.bind fun n =>
    if Int32.minValue.toInt ≤ n.toInt ∧ n.toInt ≤ Int32.maxValue.toInt then some n.toInt32 else none
  | uint64, v => uint64.orMismatch v v.asUInt?
  | uint32, v => uint32.orMismatch v <| v.asUInt?.bind fun n =>
    if n.toNat < UInt32.size then some n.toUInt32 else none
  | float, v => float.orMismatch v v.asFloat?
  | bool, v => bool.orMismatch v v.asBool?
  | bytes, v => bytes.orMismatch v v.asBytes?
  | optional inner, v => if v.isNull then .ok none else (inner.fromValue v).map some

def toValue : (t : ReadType) → t.Carrier → Value
  | string, s => EntityQuery.toValue s
  | int64, n => EntityQuery.toValue n
  | int32, n => EntityQuery.toValue n
  | uint64, n => EntityQuery.toValue n
  | uint32, n => EntityQuery.toValue n
  | float, x => EntityQuery.toValue x
  | bool, b => EntityQuery.toValue b
  | bytes, b => EntityQuery.toValue b
  | optional _, none => .null
  | optional inner, some a => inner.toValue a

/-- Reads a value that stands under a property, which is the one to blame. -/
def read (t : ReadType) (p : PropertyId) (v : Value) : Except Error t.Carrier :=
  (t.fromValue v).mapError (·.blaming p)

end ReadType

def Record.get (r : Record) (t : ReadType) (p : PropertyId) : Except Error t.Carrier :=
  t.read p (r.value p)

end EntityQuery
