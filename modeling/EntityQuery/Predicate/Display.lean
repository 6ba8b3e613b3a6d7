import EntityQuery.Condition.Display
import EntityQuery.Predicate.Basic

/-!
# Predicates as text

The text of predicates in descriptions of compiled queries. A property is shown by its name, and
integer operands by the numbers they stand for.
-/

namespace EntityQuery

namespace Relation

def sign : Relation → String
  | eq => "=="
  | ne => "!="
  | gt => ">"
  | ge => ">="
  | lt => "<"
  | le => "<="

end Relation

namespace TextRelation

def sign : TextRelation → String
  | order r => r.sign
  | contains => "contains"
  | startsWith => "starts with"
  | endsWith => "ends with"

end TextRelation

namespace Test

def caseMark (caseSensitive : Bool) : String :=
  if caseSensitive then "" else " [case-insensitive]"

def negation (negated : Bool) : String :=
  if negated then "not " else ""

def display : Test → String
  | text r operand cs => r.sign ++ " " ++ Text.quoted operand ++ caseMark cs
  | textIn operands cs => "in " ++ Text.bracketed (operands.map Text.quoted) ++ caseMark cs
  | int r operand => r.sign ++ " " ++ operand.repr
  | intBetween low high => "between " ++ low.repr ++ " and " ++ high.repr
  | intIn operands negated => negation negated ++ "in " ++ Text.bracketed (operands.map Int.repr)
  | float r operand => r.sign ++ " " ++ Text.ofFloat operand
  | floatBetween low high => "between " ++ Text.ofFloat low ++ " and " ++ Text.ofFloat high
  | bytes r operand => r.sign ++ " " ++ Text.ofBytes operand
  | null negated => "is " ++ negation negated ++ "null"

end Test

namespace Predicate

mutual

def display : Predicate → String
  | compare _ name test => name ++ " " ++ test.display
  | join j children => j.display (displayList children)

def displayList : List Predicate → List String
  | [] => []
  | p :: rest => p.display :: displayList rest

end

end Predicate

end EntityQuery
