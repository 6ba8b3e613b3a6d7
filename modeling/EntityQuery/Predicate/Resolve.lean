import EntityQuery.Error
import EntityQuery.Predicate.Basic
import EntityQuery.Predicate.Demand

/-!
# Resolving comparisons against a schema

What a comparison becomes on a schema, read off three tables of operators: what each of them demands
of the kind of its property, which of its operands may be no number, and the test it makes. An
operand that is no number is refused first, then a property that is not declared, then a kind that
does not meet the demand.
-/

namespace EntityQuery

namespace Operator

/-- The demand of an operator. The null checks make none. -/
def demand? : Operator → Option Demand
  | stringEqual .. | stringNotEqual .. | stringContains .. | stringStartsWith .. | stringEndsWith ..
  | stringGreater .. | stringLess .. | stringIn .. => some .text
  | intEqual _ | intNotEqual _ => some .integerOrBool
  | intGreater _ | intLess _ | intBetween .. => some .integer
  | int64In _ | int64NotIn _ => some .wideInteger
  | int32In _ | int32NotIn _ => some .narrowInteger
  | doubleGreater _ | doubleLess _ | doubleBetween .. => some .float
  | bytesEqual _ | bytesGreater .. | bytesLess .. => some .byteVector
  | isNull | notNull => none

def hasNaN : Operator → Bool
  | doubleGreater x | doubleLess x => x.isNaN
  | doubleBetween a b => a.isNaN || b.isNaN
  | _ => false

/-- The test that the operator makes on a property of a kind. -/
def test (k : Kind) : Operator → Test
  | stringEqual v cs => .text (.order .eq) v cs
  | stringNotEqual v cs => .text (.order .ne) v cs
  | stringContains v cs => .text .contains v cs
  | stringStartsWith v cs => .text .startsWith v cs
  | stringEndsWith v cs => .text .endsWith v cs
  | stringGreater v cs orEqual => .text (.order (.greater orEqual)) v cs
  | stringLess v cs orEqual => .text (.order (.less orEqual)) v cs
  | stringIn vs cs => .textIn vs cs
  | intEqual n => .int .eq (k.number64 n)
  | intNotEqual n => .int .ne (k.number64 n)
  | intGreater n => .int .gt (k.number64 n)
  | intLess n => .int .lt (k.number64 n)
  | intBetween a b => .intBetween (k.number64 a) (k.number64 b)
  | int64In ns => .intIn (ns.map k.number64) false
  | int64NotIn ns => .intIn (ns.map k.number64) true
  | int32In ns => .intIn (ns.map k.number32) false
  | int32NotIn ns => .intIn (ns.map k.number32) true
  | doubleGreater x => .float .gt x
  | doubleLess x => .float .lt x
  | doubleBetween a b => .floatBetween a b
  | bytesEqual b => .bytes .eq b
  | bytesGreater b orEqual => .bytes (.greater orEqual) b
  | bytesLess b orEqual => .bytes (.less orEqual) b
  | isNull => .null false
  | notNull => .null true

end Operator

namespace Comparison

def resolve (c : Comparison) (m : EntityModel) : Except Error Predicate :=
  if c.op.hasNaN then
    .error (.unsupported ("NaN operand for property " ++ c.property.text))
  else match m.property? c.property with
    | none => .error (.unknownProperty m.id c.property)
    | some p =>
      -- what is left of the demand is one that the kind does not meet
      match c.op.demand?.filter (!·.accepts p.kind) with
      | none => .ok (.compare c.property p.name (c.op.test p.kind))
      | some d => .error (.typeMismatch c.property d.expected p.kind.name)

end Comparison

end EntityQuery
