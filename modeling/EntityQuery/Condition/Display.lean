import EntityQuery.Condition.Basic
import EntityQuery.Text.Operand

/-!
# Conditions as text

A comparison is shown as its property id after a number sign, its operator and its operands; a
junction as its children in parentheses, or as a truth value when it has none.
-/

namespace EntityQuery

namespace Junction

/-- The word between two children. -/
def word : Junction → String
  | all => " AND "
  | any => " OR "

/-- What a junction of nothing is. -/
def ofNothing : Junction → String
  | all => "TRUE"
  | any => "FALSE"

/-- The text of a junction whose children have given texts. -/
def display (j : Junction) (children : List String) : String :=
  if children.isEmpty then j.ofNothing
  else "(" ++ String.intercalate j.word children ++ ")"

end Junction

namespace Operator

/-- The mark of a comparison that ignores case. -/
def caseMark (caseSensitive : Bool) : String :=
  if caseSensitive then "" else " (ci)"

def greaterSign (orEqual : Bool) : String :=
  if orEqual then ">=" else ">"

def lessSign (orEqual : Bool) : String :=
  if orEqual then "<=" else "<"

def display : Operator → String
  | stringEqual v cs => "== " ++ Text.quoted v ++ caseMark cs
  | stringNotEqual v cs => "!= " ++ Text.quoted v ++ caseMark cs
  | stringContains v cs => "contains " ++ Text.quoted v ++ caseMark cs
  | stringStartsWith v cs => "starts with " ++ Text.quoted v ++ caseMark cs
  | stringEndsWith v cs => "ends with " ++ Text.quoted v ++ caseMark cs
  | stringGreater v cs orEqual => greaterSign orEqual ++ " " ++ Text.quoted v ++ caseMark cs
  | stringLess v cs orEqual => lessSign orEqual ++ " " ++ Text.quoted v ++ caseMark cs
  | stringIn vs cs => "in " ++ Text.bracketed (vs.map Text.quoted) ++ caseMark cs
  | intEqual v => "== " ++ v.toInt.repr
  | intNotEqual v => "!= " ++ v.toInt.repr
  | intGreater v => "> " ++ v.toInt.repr
  | intLess v => "< " ++ v.toInt.repr
  | intBetween a b => "between " ++ a.toInt.repr ++ " and " ++ b.toInt.repr
  | int64In vs => "in " ++ Text.bracketed (vs.map (·.toInt.repr))
  | int64NotIn vs => "not in " ++ Text.bracketed (vs.map (·.toInt.repr))
  | int32In vs => "in " ++ Text.bracketed (vs.map (·.toInt.repr))
  | int32NotIn vs => "not in " ++ Text.bracketed (vs.map (·.toInt.repr))
  | doubleGreater x => "> " ++ Text.ofFloat x
  | doubleLess x => "< " ++ Text.ofFloat x
  | doubleBetween a b => "between " ++ Text.ofFloat a ++ " and " ++ Text.ofFloat b
  | bytesEqual b => "== " ++ Text.ofBytes b
  | bytesGreater b orEqual => greaterSign orEqual ++ " " ++ Text.ofBytes b
  | bytesLess b orEqual => lessSign orEqual ++ " " ++ Text.ofBytes b
  | isNull => "is null"
  | notNull => "is not null"

end Operator

namespace Comparison

def display (c : Comparison) : String :=
  "#" ++ c.property.text ++ " " ++ c.op.display

end Comparison

namespace Condition

mutual

def display : Condition → String
  | compare c => c.display
  | join j children => j.display (displayList children)

def displayList : List Condition → List String
  | [] => []
  | c :: rest => c.display :: displayList rest

end

end Condition

end EntityQuery
