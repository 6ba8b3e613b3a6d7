import EntityQuery.Condition.Basic
import EntityQuery.Record
import EntityQuery.Text.Lowercase
import EntityQuery.Text.Search

/-!
# Predicates

A predicate is what a condition becomes once it is resolved against a schema: it knows the name of
each property and holds integer operands as the numbers they stand for. It is evaluated on a record;
a value of the wrong shape passes no test, and null passes the null checks only.
-/

namespace EntityQuery

inductive Relation where
  | eq
  | ne
  | gt
  | ge
  | lt
  | le
  deriving DecidableEq, Repr, Inhabited

namespace Relation

def greater (orEqual : Bool) : Relation :=
  if orEqual then ge else gt

def less (orEqual : Bool) : Relation :=
  if orEqual then le else lt

/-- Whether the relation holds of things that compare in a given way. -/
def holds : Relation → Ordering → Bool
  | eq, o => o == .eq
  | ne, o => o != .eq
  | gt, o => o == .gt
  | ge, o => o != .lt
  | lt, o => o == .lt
  | le, o => o != .gt

end Relation

inductive TextRelation where
  | order (r : Relation)
  | contains
  | startsWith
  | endsWith
  deriving DecidableEq, Repr, Inhabited

inductive Test where
  | text (r : TextRelation) (operand : String) (caseSensitive : Bool)
  | textIn (operands : List String) (caseSensitive : Bool)
  | int (r : Relation) (operand : Int)
  | intBetween (low high : Int)
  | intIn (operands : List Int) (negated : Bool)
  | float (r : Relation) (operand : Float)
  | floatBetween (low high : Float)
  | bytes (r : Relation) (operand : Bytes)
  | null (negated : Bool)
  deriving Inhabited

inductive Predicate where
  | compare (property : PropertyId) (name : String) (test : Test)
  | join (j : Junction) (children : List Predicate)
  deriving Inhabited

namespace Text

def fold (caseSensitive : Bool) (s : String) : String :=
  if caseSensitive then s else lowercase s

end Text

namespace TextRelation

/-- Whether a stored text stands in the relation to an operand, both folded already. -/
def holds (r : TextRelation) (stored operand : String) : Bool :=
  match r with
  | order r => r.holds (compareOfLessAndEq stored operand)
  | contains => Text.contains stored operand
  | startsWith => Text.startsWith stored operand
  | endsWith => Text.endsWith stored operand

end TextRelation

/-- How two floats compare; something that is no number compares with nothing. -/
def compareFloats? (x y : Float) : Option Ordering :=
  if x < y then some .lt
  else if x == y then some .eq
  else if y < x then some .gt
  else none

namespace Test

def passes (t : Test) (v : Value) : Bool :=
  match t with
  | text r operand cs =>
    v.asString?.any fun stored => r.holds (Text.fold cs stored) (Text.fold cs operand)
  | textIn operands cs =>
    v.asString?.any fun stored => operands.any fun o => Text.fold cs o == Text.fold cs stored
  | int r operand => v.asNumber?.any fun n => r.holds (compareOfLessAndEq n operand)
  | intBetween low high => v.asNumber?.any fun n => low ≤ n && n ≤ high
  | intIn operands negated => v.asNumber?.any fun n => operands.contains n != negated
  | float r operand => (v.asFloat?.bind (compareFloats? · operand)).any r.holds
  | floatBetween low high => v.asFloat?.any fun x => low ≤ x && x ≤ high
  | bytes r operand => v.asBytes?.any fun b => r.holds (compareOfLessAndEq b operand)
  | null negated => v.isNull != negated

end Test

namespace Junction

def evaluate (j : Junction) (children : List Bool) : Bool :=
  match j with
  | all => children.all id
  | any => children.any id

end Junction

namespace Predicate

mutual

def holds (r : Record) : Predicate → Bool
  | compare p _ test => test.passes (r.value p)
  | join j children => j.evaluate (holdsList r children)

def holdsList (r : Record) : List Predicate → List Bool
  | [] => []
  | p :: rest => holds r p :: holdsList r rest

end

/-- One predicate for several: the only one as it is, and otherwise their conjunction. -/
def conjoin : List Predicate → Predicate
  | [p] => p
  | ps => join .all ps

end Predicate

end EntityQuery
