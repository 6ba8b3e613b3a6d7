import EntityQuery.Condition.Basic

/-!
# Typed views of a property

Which comparisons can be written against a property, by kind. A view only captures operands into a
condition. The kind of a view decides its methods; it need not be the declared kind of the property,
since conditions are checked against a schema later.

Integers are carried as words: a number of an unsigned kind becomes the signed word with the same
bits.
-/

namespace EntityQuery

/-- A property seen as one of a kind. -/
structure View (k : Kind) where
  property : Property

abbrev TextView := View .text

abbrev IntegerView (k : IntegerKind) := View (.integer k)

abbrev BoolView := View .bool

abbrev FloatView (k : FloatKind) := View (.float k)

abbrev BytesView := View .byteVector

namespace View

variable {k : Kind} (v : View k)

def compare (op : Operator) : Condition :=
  .compare ⟨v.property.id, op⟩

def isNull : Condition :=
  v.compare .isNull

def notNull : Condition :=
  v.compare .notNull

end View

namespace TextView

variable (v : TextView) (text : String) (caseSensitive : Bool)

def equal : Condition :=
  v.compare (.stringEqual text caseSensitive)

def notEqual : Condition :=
  v.compare (.stringNotEqual text caseSensitive)

def contains : Condition :=
  v.compare (.stringContains text caseSensitive)

def startsWith : Condition :=
  v.compare (.stringStartsWith text caseSensitive)

def endsWith : Condition :=
  v.compare (.stringEndsWith text caseSensitive)

def greaterThan : Condition :=
  v.compare (.stringGreater text caseSensitive false)

def greaterOrEqual : Condition :=
  v.compare (.stringGreater text caseSensitive true)

def lessThan : Condition :=
  v.compare (.stringLess text caseSensitive false)

def lessOrEqual : Condition :=
  v.compare (.stringLess text caseSensitive true)

def isIn (texts : List String) : Condition :=
  v.compare (.stringIn texts caseSensitive)

end TextView

/-! ## Integers

Operands are numbers in the range of the view's kind. The members of a list are words of 64 bits or
of 32 bits, as the kind's row of `IntegerKind.membership` has it. -/

/-- The membership operators of a view, given the members as numbers. -/
structure Membership where
  isIn : List Int → Operator
  notIn : List Int → Operator

namespace Membership

/-- Members are words of 64 bits. -/
def wide : Membership where
  isIn ns := .int64In (ns.map Int64.ofInt)
  notIn ns := .int64NotIn (ns.map Int64.ofInt)

/-- Members are words of 32 bits. -/
def narrow : Membership where
  isIn ns := .int32In (ns.map Int32.ofInt)
  notIn ns := .int32NotIn (ns.map Int32.ofInt)

end Membership

/-- The membership operators of the views of each integer kind. -/
def IntegerKind.membership : IntegerKind → Membership
  | int64 => .wide
  | int => .wide
  | uint64 => .wide
  | uint => .wide
  | int32 => .narrow
  | uint32 => .narrow
  | int16 => .narrow
  | uint16 => .narrow
  | int8 => .narrow
  | uint8 => .narrow
  | byte => .narrow
  | rune => .narrow

namespace IntegerView

variable {k : IntegerKind} (v : IntegerView k)

def equal (n : Int) : Condition :=
  v.compare (.intEqual (Int64.ofInt n))

def notEqual (n : Int) : Condition :=
  v.compare (.intNotEqual (Int64.ofInt n))

def greaterThan (n : Int) : Condition :=
  v.compare (.intGreater (Int64.ofInt n))

def lessThan (n : Int) : Condition :=
  v.compare (.intLess (Int64.ofInt n))

/-- Both ends belong to the range; an upside-down range is not refused. -/
def between (low high : Int) : Condition :=
  v.compare (.intBetween (Int64.ofInt low) (Int64.ofInt high))

def isIn (ns : List Int) : Condition :=
  v.compare (k.membership.isIn ns)

def notIn (ns : List Int) : Condition :=
  v.compare (k.membership.notIn ns)

end IntegerView

namespace BoolView

variable (v : BoolView)

def equal (b : Bool) : Condition :=
  v.compare (.intEqual (if b then 1 else 0))

def notEqual (b : Bool) : Condition :=
  v.compare (.intNotEqual (if b then 1 else 0))

end BoolView

/-- The operands of a float view. -/
@[reducible]
def FloatKind.Operand : FloatKind → Type
  | float32 => Float32
  | float64 => Float

/-- An operand as a double; no float of single width is changed by it. -/
def FloatKind.widen : {k : FloatKind} → k.Operand → Float
  | float32, x => Float32.toFloat x
  | float64, x => x

namespace FloatView

variable {k : FloatKind} (v : FloatView k)

def greaterThan (x : k.Operand) : Condition :=
  v.compare (.doubleGreater (FloatKind.widen x))

def lessThan (x : k.Operand) : Condition :=
  v.compare (.doubleLess (FloatKind.widen x))

def between (low high : k.Operand) : Condition :=
  v.compare (.doubleBetween (FloatKind.widen low) (FloatKind.widen high))

end FloatView

namespace BytesView

variable (v : BytesView) (bytes : Bytes)

def equal : Condition :=
  v.compare (.bytesEqual bytes)

def greaterThan : Condition :=
  v.compare (.bytesGreater bytes false)

def greaterOrEqual : Condition :=
  v.compare (.bytesGreater bytes true)

def lessThan : Condition :=
  v.compare (.bytesLess bytes false)

def lessOrEqual : Condition :=
  v.compare (.bytesLess bytes true)

end BytesView

end EntityQuery
