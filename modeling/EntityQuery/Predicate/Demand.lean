import EntityQuery.Schema

/-!
# What operators demand of kinds

Primitives come in families. Each family demands something of the kind of its property, and reads
its integer operands by that kind: an operand of an unsigned property is the number with the same
bits.
-/

namespace EntityQuery

/-- What an operator demands of a property's kind. -/
inductive Demand where
  | text
  | integerOrBool
  | integer
  | wideInteger
  | narrowInteger
  | float
  | byteVector
  deriving DecidableEq, Repr, Inhabited

namespace Demand

def accepts (d : Demand) (k : Kind) : Bool :=
  match d with
  | text => k == .text
  | integerOrBool => k.isInteger || k == .bool
  | integer => k.isInteger
  | wideInteger => k.width? == some 64
  | narrowInteger => k.width?.any (· ≤ 32)
  | float => k.isFloat
  | byteVector => k == .byteVector

def expected : Demand → String
  | text => "Text"
  | integerOrBool => "integer or Bool"
  | integer => "integer"
  | wideInteger => "64-bit integer"
  | narrowInteger => "integer of at most 32 bits"
  | float => "Float32 or Float64"
  | byteVector => "ByteVector"

end Demand

namespace Kind

/-- The number that a 64-bit operand stands for on a property of the kind. -/
def number64 (k : Kind) (n : Int64) : Int :=
  if k.isUnsigned then n.toUInt64.toNat else n.toInt

/-- The number that a 32-bit operand stands for on a property of the kind. -/
def number32 (k : Kind) (n : Int32) : Int :=
  if k.isUnsigned then n.toUInt32.toNat else n.toInt

end Kind

end EntityQuery
