import EntityQuery.Condition.Basic

/-!
# Leaf primitives

What a builder session is asked for a single comparison. A comparison is data, and says what it asks
with an operator; a session has a primitive of its own for each operator, which takes the property,
the operands and the flags as arguments. `Comparison.primitive` picks the primitive of a comparison.
-/

namespace EntityQuery

/-- A primitive of a builder session with its arguments, the property first. -/
inductive Primitive where
  | stringEqual (property : PropertyId) (value : String) (caseSensitive : Bool)
  | stringNotEqual (property : PropertyId) (value : String) (caseSensitive : Bool)
  | stringContains (property : PropertyId) (value : String) (caseSensitive : Bool)
  | stringStartsWith (property : PropertyId) (value : String) (caseSensitive : Bool)
  | stringEndsWith (property : PropertyId) (value : String) (caseSensitive : Bool)
  | stringGreater (property : PropertyId) (value : String) (caseSensitive orEqual : Bool)
  | stringLess (property : PropertyId) (value : String) (caseSensitive orEqual : Bool)
  | stringIn (property : PropertyId) (values : List String) (caseSensitive : Bool)
  | intEqual (property : PropertyId) (value : Int64)
  | intNotEqual (property : PropertyId) (value : Int64)
  | intGreater (property : PropertyId) (value : Int64)
  | intLess (property : PropertyId) (value : Int64)
  /-- Both ends belong to the range; an upside-down range is passed through. -/
  | intBetween (property : PropertyId) (low high : Int64)
  | int64In (property : PropertyId) (values : List Int64)
  | int64NotIn (property : PropertyId) (values : List Int64)
  | int32In (property : PropertyId) (values : List Int32)
  | int32NotIn (property : PropertyId) (values : List Int32)
  | doubleGreater (property : PropertyId) (value : Float)
  | doubleLess (property : PropertyId) (value : Float)
  | doubleBetween (property : PropertyId) (low high : Float)
  | bytesEqual (property : PropertyId) (value : Bytes)
  | bytesGreater (property : PropertyId) (value : Bytes) (orEqual : Bool)
  | bytesLess (property : PropertyId) (value : Bytes) (orEqual : Bool)
  | isNull (property : PropertyId)
  | notNull (property : PropertyId)
  deriving BEq, Inhabited

namespace Primitive

/-- The name of the primitive, which faults are switched by. -/
def name : Primitive → String
  | stringEqual .. => "string_equal"
  | stringNotEqual .. => "string_not_equal"
  | stringContains .. => "string_contains"
  | stringStartsWith .. => "string_starts_with"
  | stringEndsWith .. => "string_ends_with"
  | stringGreater .. => "string_greater"
  | stringLess .. => "string_less"
  | stringIn .. => "string_in"
  | intEqual .. => "int_equal"
  | intNotEqual .. => "int_not_equal"
  | intGreater .. => "int_greater"
  | intLess .. => "int_less"
  | intBetween .. => "int_between"
  | int64In .. => "int64_in"
  | int64NotIn .. => "int64_not_in"
  | int32In .. => "int32_in"
  | int32NotIn .. => "int32_not_in"
  | doubleGreater .. => "double_greater"
  | doubleLess .. => "double_less"
  | doubleBetween .. => "double_between"
  | bytesEqual .. => "bytes_equal"
  | bytesGreater .. => "bytes_greater"
  | bytesLess .. => "bytes_less"
  | isNull _ => "is_null"
  | notNull _ => "not_null"

end Primitive

/-- The primitive that registers a comparison: one for each operator, given the comparison's
property and the operator's operands and flags. -/
def Comparison.primitive (c : Comparison) : Primitive :=
  let p := c.property
  match c.op with
  | .stringEqual value caseSensitive => .stringEqual p value caseSensitive
  | .stringNotEqual value caseSensitive => .stringNotEqual p value caseSensitive
  | .stringContains value caseSensitive => .stringContains p value caseSensitive
  | .stringStartsWith value caseSensitive => .stringStartsWith p value caseSensitive
  | .stringEndsWith value caseSensitive => .stringEndsWith p value caseSensitive
  | .stringGreater value caseSensitive orEqual => .stringGreater p value caseSensitive orEqual
  | .stringLess value caseSensitive orEqual => .stringLess p value caseSensitive orEqual
  | .stringIn values caseSensitive => .stringIn p values caseSensitive
  | .intEqual n => .intEqual p n
  | .intNotEqual n => .intNotEqual p n
  | .intGreater n => .intGreater p n
  | .intLess n => .intLess p n
  | .intBetween low high => .intBetween p low high
  | .int64In ns => .int64In p ns
  | .int64NotIn ns => .int64NotIn p ns
  | .int32In ns => .int32In p ns
  | .int32NotIn ns => .int32NotIn p ns
  | .doubleGreater x => .doubleGreater p x
  | .doubleLess x => .doubleLess p x
  | .doubleBetween low high => .doubleBetween p low high
  | .bytesEqual b => .bytesEqual p b
  | .bytesGreater b orEqual => .bytesGreater p b orEqual
  | .bytesLess b orEqual => .bytesLess p b orEqual
  | .isNull => .isNull p
  | .notNull => .notNull p

end EntityQuery
