import EntityQuery.Predicate.Basic
import Mathlib

/-!
# What conditions mean

A condition read as a formula about one record, without a builder session, a plan or an engine.

* `Operator.Holds` says what each operator asks of a value, given the kind of the property it stands
  under.
* `Condition.Holds` reads a tree: "all" holds if every child does and "any" if some child does.
* `Condition.AcceptedBy` says which conditions a schema accepts.

An operator asks something of values of one shape only, so null and values of other shapes satisfy
none but the null checks.
-/

namespace EntityQuery

namespace Value

def IsText (v : Value) (caseSensitive : Bool) (P : String → Prop) : Prop :=
  ∃ s, v = .string s ∧ P (Text.fold caseSensitive s)

def IsNumber (v : Value) (P : Int → Prop) : Prop :=
  ∃ n, v.asNumber? = some n ∧ P n

def IsFloat (v : Value) (P : Float → Prop) : Prop :=
  ∃ x, v = .float x ∧ P x

def IsBytes (v : Value) (P : Bytes → Prop) : Prop :=
  ∃ b, v = .bytes b ∧ P b

end Value

namespace Kind

/-- The number that an operand of a width stands for on a property of the kind: on an unsigned
property the number without a sign that has the same bits. -/
def operand (k : Kind) (width : Nat) (n : Int) : Int :=
  if k.isUnsigned then n % 2 ^ width else n

end Kind

namespace Operator

def Holds (k : Kind) (v : Value) : Operator → Prop
  | stringEqual t cs => v.IsText cs fun s => s = Text.fold cs t
  | stringNotEqual t cs => v.IsText cs fun s => s ≠ Text.fold cs t
  | stringContains t cs => v.IsText cs fun s => (Text.fold cs t).toList <:+: s.toList
  | stringStartsWith t cs => v.IsText cs fun s => (Text.fold cs t).toList <+: s.toList
  | stringEndsWith t cs => v.IsText cs fun s => (Text.fold cs t).toList <:+ s.toList
  | stringGreater t cs orEqual =>
    v.IsText cs fun s => Text.fold cs t < s ∨ orEqual ∧ s = Text.fold cs t
  | stringLess t cs orEqual =>
    v.IsText cs fun s => s < Text.fold cs t ∨ orEqual ∧ s = Text.fold cs t
  | stringIn ts cs => v.IsText cs fun s => ∃ t ∈ ts, Text.fold cs t = s
  | intEqual a => v.IsNumber fun n => n = k.operand 64 a.toInt
  | intNotEqual a => v.IsNumber fun n => n ≠ k.operand 64 a.toInt
  | intGreater a => v.IsNumber fun n => n > k.operand 64 a.toInt
  | intLess a => v.IsNumber fun n => n < k.operand 64 a.toInt
  | intBetween a b => v.IsNumber fun n => k.operand 64 a.toInt ≤ n ∧ n ≤ k.operand 64 b.toInt
  | int64In as => v.IsNumber fun n => ∃ a ∈ as, k.operand 64 a.toInt = n
  | int64NotIn as => v.IsNumber fun n => ∀ a ∈ as, k.operand 64 a.toInt ≠ n
  | int32In as => v.IsNumber fun n => ∃ a ∈ as, k.operand 32 a.toInt = n
  | int32NotIn as => v.IsNumber fun n => ∀ a ∈ as, k.operand 32 a.toInt ≠ n
  | doubleGreater a => v.IsFloat fun x => x > a
  | doubleLess a => v.IsFloat fun x => x < a
  | doubleBetween a b => v.IsFloat fun x => a ≤ x ∧ x ≤ b
  | bytesEqual a => v.IsBytes fun b => b = a
  | bytesGreater a orEqual => v.IsBytes fun b => b > a ∨ orEqual ∧ b = a
  | bytesLess a orEqual => v.IsBytes fun b => b < a ∨ orEqual ∧ b = a
  | isNull => v = .null
  | notNull => v ≠ .null

/-- Whether the operator can be asked of a property of a kind. No operator takes an operand that is
no number. -/
def Fits (k : Kind) : Operator → Prop
  | stringEqual .. | stringNotEqual .. | stringContains .. | stringStartsWith .. | stringEndsWith ..
  | stringGreater .. | stringLess .. | stringIn .. => k = .text
  | intEqual _ | intNotEqual _ => k = .bool ∨ ∃ i, k = .integer i
  | intGreater _ | intLess _ | intBetween .. => ∃ i, k = .integer i
  | int64In _ | int64NotIn _ => ∃ i, k = .integer i ∧ i.width = 64
  | int32In _ | int32NotIn _ => ∃ i, k = .integer i ∧ i.width ≤ 32
  | doubleGreater a | doubleLess a => (∃ f, k = .float f) ∧ a.isNaN = false
  | doubleBetween a b => (∃ f, k = .float f) ∧ a.isNaN = false ∧ b.isNaN = false
  | bytesEqual _ | bytesGreater .. | bytesLess .. => k = .byteVector
  | isNull | notNull => True

end Operator

namespace Comparison

/-- Whether the comparison holds of a record of an entity with a schema. -/
def Holds (m : EntityModel) (r : Record) (c : Comparison) : Prop :=
  ∃ p, m.property? c.property = some p ∧ c.op.Holds p.kind (r.value c.property)

/-- Whether the comparison names a declared property whose kind its operator fits. -/
def AcceptedBy (m : EntityModel) (c : Comparison) : Prop :=
  ∃ p, m.property? c.property = some p ∧ c.op.Fits p.kind

end Comparison

namespace Condition

/-- Whether the condition holds of a record of an entity with a schema. -/
inductive Holds (m : EntityModel) (r : Record) : Condition → Prop where
  | compare {c : Comparison} (h : c.Holds m r) : Holds m r (.compare c)
  | all {children : List Condition} (h : ∀ c ∈ children, Holds m r c) : Holds m r (.all children)
  | any {children : List Condition} {c : Condition} (hc : c ∈ children) (h : Holds m r c) :
    Holds m r (.any children)

/-- Whether a schema accepts every comparison of the condition. -/
def AcceptedBy (m : EntityModel) (c : Condition) : Prop :=
  ∀ leaf ∈ c.leaves, leaf.AcceptedBy m

end Condition

end EntityQuery
