import EntityQuery.Condition.Basic
import EntityQuery.Encoding.Value

/-!
# Conditions in JSON

Operators and conditions are variants: an object with the variant's name as its only key. A variant
with named operands holds an object, one with a single operand holds it bare, a range holds a pair,
and the null checks hold nothing and are written as strings.
-/

namespace EntityQuery

namespace Operator

open JsonForm (toJson ofJson?)

def ofText (name value : String) (caseSensitive : Bool) : Json :=
  .ofVariant name (.ofMembers [("value", toJson value), ("case_sensitive", toJson caseSensitive)])

def ofOrderedText (name value : String) (caseSensitive orEqual : Bool) : Json :=
  .ofVariant name (.ofMembers [("value", toJson value), ("case_sensitive", toJson caseSensitive),
    ("or_equal", toJson orEqual)])

def ofOrderedBytes (name : String) (value : Bytes) (orEqual : Bool) : Json :=
  .ofVariant name (.ofMembers [("value", toJson value), ("or_equal", toJson orEqual)])

def form : Operator → Json
  | stringEqual v cs => ofText "StringEqual" v cs
  | stringNotEqual v cs => ofText "StringNotEqual" v cs
  | stringContains v cs => ofText "StringContains" v cs
  | stringStartsWith v cs => ofText "StringStartsWith" v cs
  | stringEndsWith v cs => ofText "StringEndsWith" v cs
  | stringGreater v cs orEqual => ofOrderedText "StringGreater" v cs orEqual
  | stringLess v cs orEqual => ofOrderedText "StringLess" v cs orEqual
  | stringIn vs cs =>
    .ofVariant "StringIn" (.ofMembers [("values", toJson vs), ("case_sensitive", toJson cs)])
  | intEqual v => .ofVariant "IntEqual" (toJson v)
  | intNotEqual v => .ofVariant "IntNotEqual" (toJson v)
  | intGreater v => .ofVariant "IntGreater" (toJson v)
  | intLess v => .ofVariant "IntLess" (toJson v)
  | intBetween a b => .ofVariant "IntBetween" (toJson [a, b])
  | int64In vs => .ofVariant "Int64In" (toJson vs)
  | int64NotIn vs => .ofVariant "Int64NotIn" (toJson vs)
  | int32In vs => .ofVariant "Int32In" (toJson vs)
  | int32NotIn vs => .ofVariant "Int32NotIn" (toJson vs)
  | doubleGreater x => .ofVariant "DoubleGreater" (toJson x)
  | doubleLess x => .ofVariant "DoubleLess" (toJson x)
  | doubleBetween a b => .ofVariant "DoubleBetween" (toJson [a, b])
  | bytesEqual b => .ofVariant "BytesEqual" (toJson b)
  | bytesGreater b orEqual => ofOrderedBytes "BytesGreater" b orEqual
  | bytesLess b orEqual => ofOrderedBytes "BytesLess" b orEqual
  | isNull => .ofString "IsNull"
  | notNull => .ofString "NotNull"

def text? (make : String → Bool → Operator) (room : Nat) (j : Json) : Option Operator := do
  match ← j.fields? room ["value", "case_sensitive"] with
  | ([value, caseSensitive], room) =>
    return make (← ofJson? room value) (← ofJson? room caseSensitive)
  | _ => none

def orderedText? (make : String → Bool → Bool → Operator) (room : Nat) (j : Json) :
    Option Operator := do
  match ← j.fields? room ["value", "case_sensitive", "or_equal"] with
  | ([value, caseSensitive, orEqual], room) =>
    return make (← ofJson? room value) (← ofJson? room caseSensitive) (← ofJson? room orEqual)
  | _ => none

def texts? (room : Nat) (j : Json) : Option Operator := do
  match ← j.fields? room ["values", "case_sensitive"] with
  | ([values, caseSensitive], room) =>
    return stringIn (← ofJson? room values) (← ofJson? room caseSensitive)
  | _ => none

def orderedBytes? (make : Bytes → Bool → Operator) (room : Nat) (j : Json) : Option Operator := do
  match ← j.fields? room ["value", "or_equal"] with
  | ([value, orEqual], room) => return make (← ofJson? room value) (← ofJson? room orEqual)
  | _ => none

def range? {α : Type} [JsonForm α] (make : α → α → Operator) (room : Nat) (j : Json) :
    Option Operator := do
  match ← j.items? room with
  | ([low, high], room) => return make (← ofJson? room low) (← ofJson? room high)
  | _ => none

/-- The operator of a given name with given content. -/
def ofVariant? (room : Nat) (name : String) (content? : Option Json) : Option Operator :=
  match name, content? with
  | "StringEqual", some j => text? stringEqual room j
  | "StringNotEqual", some j => text? stringNotEqual room j
  | "StringContains", some j => text? stringContains room j
  | "StringStartsWith", some j => text? stringStartsWith room j
  | "StringEndsWith", some j => text? stringEndsWith room j
  | "StringGreater", some j => orderedText? stringGreater room j
  | "StringLess", some j => orderedText? stringLess room j
  | "StringIn", some j => texts? room j
  | "IntEqual", some j => (ofJson? room j).map intEqual
  | "IntNotEqual", some j => (ofJson? room j).map intNotEqual
  | "IntGreater", some j => (ofJson? room j).map intGreater
  | "IntLess", some j => (ofJson? room j).map intLess
  | "IntBetween", some j => range? intBetween room j
  | "Int64In", some j => (ofJson? room j).map int64In
  | "Int64NotIn", some j => (ofJson? room j).map int64NotIn
  | "Int32In", some j => (ofJson? room j).map int32In
  | "Int32NotIn", some j => (ofJson? room j).map int32NotIn
  | "DoubleGreater", some j => (ofJson? room j).map doubleGreater
  | "DoubleLess", some j => (ofJson? room j).map doubleLess
  | "DoubleBetween", some j => range? doubleBetween room j
  | "BytesEqual", some j => (ofJson? room j).map bytesEqual
  | "BytesGreater", some j => orderedBytes? bytesGreater room j
  | "BytesLess", some j => orderedBytes? bytesLess room j
  | "IsNull", none | "IsNull", some .null => some isNull
  | "NotNull", none | "NotNull", some .null => some notNull
  | _, _ => none

instance : JsonForm Operator where
  toJson := form
  ofJson? room j := do
    let (name, content?, room) ← j.variant? room
    ofVariant? room name content?

end Operator

instance : JsonForm Comparison where
  toJson c := .ofMembers [("property", JsonForm.toJson c.property), ("op", JsonForm.toJson c.op)]
  ofJson? room j := do
    match ← j.fields? room ["property", "op"] with
    | ([property, op], room) =>
      return ⟨← JsonForm.ofJson? room property, ← JsonForm.ofJson? room op⟩
    | _ => none

namespace Junction

def tag : Junction → String
  | all => "All"
  | any => "Any"

def ofTag? (name : String) : Option Junction :=
  [all, any].find? (·.tag == name)

end Junction

namespace Condition

mutual

def form : Condition → Json
  | compare c => .ofVariant "Compare" (JsonForm.toJson c)
  | join j children => .ofVariant j.tag (.array (forms children))

def forms : List Condition → List Json
  | [] => []
  | c :: rest => c.form :: forms rest

end

mutual

def ofForm? (room : Nat) : Json → Option Condition
  | .object [(key, .array items)] => do
    let room ← Json.enter? room
    let name ← StringPart.text? key
    -- a comparison may be written as an array too, so the name decides
    if name = "Compare" then
      return compare (← JsonForm.ofJson? room (.array items))
    else
      let j ← Junction.ofTag? name
      let room ← Json.enter? room
      return join j (← ofForms? room items)
  | .object [(key, content)] => do
    let room ← Json.enter? room
    let name ← StringPart.text? key
    if name = "Compare" then
      return compare (← JsonForm.ofJson? room content)
    else none
  | _ => none

def ofForms? (room : Nat) : List Json → Option (List Condition)
  | [] => some []
  | j :: rest => do
    let c ← ofForm? room j
    let cs ← ofForms? room rest
    return c :: cs

end

instance : JsonForm Condition where
  toJson := form
  ofJson? := ofForm?

end Condition

end EntityQuery
