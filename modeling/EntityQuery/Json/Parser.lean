import EntityQuery.Json.Lexer

/-!
# JSON values from tokens

The parser is a machine that takes one token at a time and keeps the containers it is inside of in a
list, so a value may be nested as deeply as its text is long.
-/

namespace EntityQuery

namespace Json

/-- A container that is not complete yet. What it holds so far is kept last item first. -/
inductive Frame where
  | items (done : List Json)
  | members (done : List (List StringPart × Json)) (key : List StringPart)
  deriving Inhabited

/-- What the parser expects, inside the containers of `outer`. -/
inductive State where
  | value (outer : List Frame)
  /-- The first item of an array, or its end. -/
  | firstItem (outer : List Frame)
  /-- The first key of an object, or its end. -/
  | firstKey (outer : List Frame)
  /-- A key after a comma. -/
  | key (done : List (List StringPart × Json)) (outer : List Frame)
  /-- The colon after a key. -/
  | colon (done : List (List StringPart × Json)) (key : List StringPart) (outer : List Frame)
  /-- A separator or an end, after a complete value. -/
  | after (v : Json) (outer : List Frame)
  deriving Inhabited

namespace State

def start? (outer : List Frame) : Token → Option State
  | .null => some (after .null outer)
  | .bool b => some (after (.bool b) outer)
  | .number n => some (after (.number n) outer)
  | .string parts => some (after (.string parts) outer)
  | .openBracket => some (firstItem outer)
  | .openBrace => some (firstKey outer)
  | _ => none

def step? : State → Token → Option State
  | value outer, t => start? outer t
  | firstItem outer, .closeBracket => some (after (.array []) outer)
  | firstItem outer, t => start? (.items [] :: outer) t
  | firstKey outer, .closeBrace => some (after (.object []) outer)
  | firstKey outer, .string k => some (colon [] k outer)
  | key done outer, .string k => some (colon done k outer)
  | colon done k outer, .colon => some (value (.members done k :: outer))
  | after v (.items done :: outer), .comma => some (value (.items (v :: done) :: outer))
  | after v (.items done :: outer), .closeBracket =>
    some (after (.array (v :: done).reverse) outer)
  | after v (.members done k :: outer), .comma => some (key ((k, v) :: done) outer)
  | after v (.members done k :: outer), .closeBrace =>
    some (after (.object ((k, v) :: done).reverse) outer)
  | _, _ => none

end State

def ofTokens? (ts : List Token) : Option Json :=
  match ts.foldlM State.step? (.value []) with
  | some (.after v []) => some v
  | _ => none

def parse? (bytes : List UInt8) : Option Json :=
  (Token.lex? bytes).bind ofTokens?

end Json

end EntityQuery
