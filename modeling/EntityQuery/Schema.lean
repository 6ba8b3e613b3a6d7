import EntityQuery.Id

/-!
# Entity schemas

The kinds a property can be declared with, declared properties, and the model of an entity type,
which lists its properties in declaration order. Look-ups find the first property with a given id or
name.
-/

namespace EntityQuery

/-- The integer kinds. `int` and `uint` are as wide as a machine word, a rune is a character. -/
inductive IntegerKind where
  | int8
  | int16
  | int32
  | int64
  | int
  | uint8
  | uint16
  | uint32
  | uint64
  | uint
  | rune
  | byte
  deriving DecidableEq, Repr, Inhabited

/-- The floating point kinds, by their width. -/
inductive FloatKind where
  | float32
  | float64
  deriving DecidableEq, Repr, Inhabited

/-- What a property is declared to hold. -/
inductive Kind where
  | bool
  | integer (kind : IntegerKind)
  | float (kind : FloatKind)
  | text
  | byteVector
  deriving DecidableEq, Repr, Inhabited

namespace IntegerKind

/-- Whether the kind has negative numbers. Runes are kept with a sign. -/
def isSigned : IntegerKind → Bool
  | int8 | int16 | int32 | int64 | int | rune => true
  | uint8 | uint16 | uint32 | uint64 | uint | byte => false

/-- How many bits a number of the kind takes in storage. -/
def width : IntegerKind → Nat
  | int8 | uint8 | byte => 8
  | int16 | uint16 => 16
  | int32 | uint32 | rune => 32
  | int64 | uint64 | int | uint => 64

def name : IntegerKind → String
  | int8 => "Int8"
  | int16 => "Int16"
  | int32 => "Int32"
  | int64 => "Int64"
  | int => "Int"
  | uint8 => "UInt8"
  | uint16 => "UInt16"
  | uint32 => "UInt32"
  | uint64 => "UInt64"
  | uint => "UInt"
  | rune => "Rune"
  | byte => "Byte"

def all : List IntegerKind :=
  [int8, int16, int32, int64, int, uint8, uint16, uint32, uint64, uint, rune, byte]

def size (k : IntegerKind) : Nat :=
  Nat.pow 2 k.width

/-- The numbers of the kind: half of them are negative if the kind has a sign, and else none. -/
def InRange (k : IntegerKind) (n : Int) : Prop :=
  let half : Int := (k.size / 2 : Nat)
  if k.isSigned then -half ≤ n ∧ n < half else 0 ≤ n ∧ n < k.size

instance (k : IntegerKind) (n : Int) : Decidable (k.InRange n) := by
  unfold InRange
  infer_instance

end IntegerKind

namespace FloatKind

def name : FloatKind → String
  | float32 => "Float32"
  | float64 => "Float64"

def all : List FloatKind :=
  [float32, float64]

end FloatKind

namespace Kind

def name : Kind → String
  | bool => "Bool"
  | integer k => k.name
  | float k => k.name
  | text => "Text"
  | byteVector => "ByteVector"

def all : List Kind :=
  bool :: IntegerKind.all.map integer ++ FloatKind.all.map float ++ [text, byteVector]

def ofName? (name : String) : Option Kind :=
  all.find? (·.name == name)

def isInteger : Kind → Bool
  | integer _ => true
  | _ => false

def isSigned : Kind → Bool
  | integer k => k.isSigned
  | _ => false

def isUnsigned : Kind → Bool
  | integer k => !k.isSigned
  | _ => false

def isFloat : Kind → Bool
  | float _ => true
  | _ => false

/-- How many bits an integer kind takes in storage; no other kind has a width. -/
def width? : Kind → Option Nat
  | integer k => some k.width
  | _ => none

theorem mem_all (k : Kind) : k ∈ all := by
  cases k with
  | integer k => cases k <;> decide
  | float k => cases k <;> decide
  | _ => decide

end Kind

structure Property where
  id : PropertyId
  entity : EntityId
  name : String
  kind : Kind
  deriving DecidableEq, Repr, Inhabited

/-- The schema of one entity type, with its properties in declaration order. -/
structure EntityModel where
  id : EntityId
  name : String
  properties : List Property
  deriving DecidableEq, Repr, Inhabited

namespace EntityModel

def new (id : EntityId) (name : String) : EntityModel where
  id := id
  name := name
  properties := []

/-- Declares one more property. The caller keeps property ids distinct. -/
def declare (m : EntityModel) (id : PropertyId) (name : String) (kind : Kind) : EntityModel where
  id := m.id
  name := m.name
  properties := m.properties ++ [⟨id, m.id, name, kind⟩]

/-- The first declared property with an id. -/
def property? (m : EntityModel) (id : PropertyId) : Option Property :=
  m.properties.find? (·.id == id)

def propertyNamed? (m : EntityModel) (name : String) : Option Property :=
  m.properties.find? (·.name == name)

end EntityModel

end EntityQuery
