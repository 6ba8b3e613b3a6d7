import EntityQuery.Decimal.Shortest
import EntityQuery.Text.Quoted
import EntityQuery.Value

/-!
# Operands and values as text

Floats are shown plainly, texts quoted, and byte vectors by their length.
-/

namespace EntityQuery

/-- Floats shown to people have the fewest digits that tell them apart and never an exponent. -/
def Layout.plain : Layout where
  tie := .up
  positional := none
  keepsPoint := false

namespace Text

def ofFloat (x : Float) : String :=
  if x.isNaN then "NaN"
  else if x.isInf then if x < 0 then "-inf" else "inf"
  else String.ofList (Layout.plain.numeralOfFloat x).chars

/-- A byte vector, by its length only. -/
def ofBytes (b : Bytes) : String :=
  "<bytes[" ++ b.length.repr ++ "]>"

def bracketed (items : List String) : String :=
  "[" ++ String.intercalate ", " items ++ "]"

end Text

namespace Value

/-- A value, shown to people. A text stands between quotes, and only quotes inside it are marked. -/
def display : Value → String
  | null => "null"
  | bool b => if b then "true" else "false"
  | int n => n.toInt.repr
  | uint n => n.toNat.repr
  | float x => Text.ofFloat x
  | string s =>
    String.ofList ('"' :: s.toList.flatMap (fun c => if c = '"' then ['\\', '"'] else [c]) ++ ['"'])
  | bytes b => Text.ofBytes b

end Value

end EntityQuery
