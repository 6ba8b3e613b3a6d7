import EntityQuery.Engine
import EntityQuery.Predicate.Basic
import EntityQuery.Predicate.Demand

/-!
# Builder sessions

A session keeps every condition registered with it in a slot of its own, in order. Combining takes
the slots it is given and puts a new one at the end; a taken slot is never taken again. Whatever is
left untaken when the session is compiled is conjoined.

The calls of a session are actions on it. Each of them checks all that it is given before it changes
anything, so a refused call leaves the session as it was.

* `Session.register` is the primitives, one by one; `Session.pushTest` is what they have in common.
* `Session.combine` takes some slots and joins what is in them.
-/

namespace EntityQuery

/-- A registered condition, and whether a combination has taken it. -/
structure Slot where
  predicate : Predicate
  taken : Bool
  deriving Inhabited

/-- A builder session on a snapshot of an entity model. -/
structure Session where
  id : UInt64
  model : EntityModel
  slots : List Slot
  deriving Inhabited

inductive Refusal where
  | foreign (c : ConditionId) (session : UInt64)
  | unknown (c : ConditionId)
  | alreadyCombined (c : ConditionId)
  deriving DecidableEq, Repr, Inhabited

namespace Refusal

def message : Refusal → String
  | foreign c session =>
    "condition " ++ c.text ++ " belongs to another builder (this is " ++ session.toNat.repr ++ ")"
  | unknown c => "unknown condition " ++ c.text
  | alreadyCombined c => "condition " ++ c.text ++ " already combined"

def toError (r : Refusal) : Error :=
  .build r.message

end Refusal

namespace Session

def new (id : UInt64) (model : EntityModel) : Session where
  id := id
  model := model
  slots := []

def entity (s : Session) : EntityId :=
  s.model.id

/-- The session with one more slot, and the id of that slot. -/
def append (s : Session) (p : Predicate) : ConditionId × Session :=
  (⟨s.id, UInt32.ofNat s.slots.length⟩, { s with slots := s.slots ++ [⟨p, false⟩] })

def push (p : Predicate) : Action Session ConditionId :=
  modifyGet (·.append p)

/-! ## Primitives -/

/-- The declared property of an id, if its kind meets a demand. -/
def property (s : Session) (id : PropertyId) (demand? : Option Demand) : Except Error Property :=
  match s.model.property? id with
  | none => .error (.unknownProperty s.model.id id)
  | some p =>
    -- what is left of the demand is one that the kind does not meet
    match demand?.filter (!·.accepts p.kind) with
    | none => .ok p
    | some d => .error (.typeMismatch id d.expected p.kind.name)

/-- Registers a test of a property, which may depend on the kind of the property. -/
def pushTest (id : PropertyId) (demand? : Option Demand) (test : Kind → Test) :
    Action Session ConditionId := do
  let p ← .ofQuestion (·.property id demand?)
  push (.compare id p.name (test p.kind))

def pushText (id : PropertyId) (r : TextRelation) (value : String) (caseSensitive : Bool) :
    Action Session ConditionId :=
  pushTest id (some .text) fun _ => .text r value caseSensitive

def pushInt (id : PropertyId) (demand : Demand) (r : Relation) (n : Int64) :
    Action Session ConditionId :=
  pushTest id (some demand) fun k => .int r (k.number64 n)

/-- Refuses operands that are no numbers, whatever property they are for. -/
def refuseNaN (id : PropertyId) (operands : List Float) : Action Session Unit :=
  .ofQuestion fun _ =>
    if operands.any (·.isNaN) then
      .error (.unsupported ("NaN operand for property " ++ id.text))
    else .ok ()

/-- The primitives: what each of them demands of its property, and the test that it makes. -/
def register : Primitive → Action Session ConditionId
  | .stringEqual id value cs => pushText id (.order .eq) value cs
  | .stringNotEqual id value cs => pushText id (.order .ne) value cs
  | .stringContains id value cs => pushText id .contains value cs
  | .stringStartsWith id value cs => pushText id .startsWith value cs
  | .stringEndsWith id value cs => pushText id .endsWith value cs
  | .stringGreater id value cs orEqual => pushText id (.order (.greater orEqual)) value cs
  | .stringLess id value cs orEqual => pushText id (.order (.less orEqual)) value cs
  | .stringIn id values cs => pushTest id (some .text) fun _ => .textIn values cs
  | .intEqual id n => pushInt id .integerOrBool .eq n
  | .intNotEqual id n => pushInt id .integerOrBool .ne n
  | .intGreater id n => pushInt id .integer .gt n
  | .intLess id n => pushInt id .integer .lt n
  | .intBetween id low high =>
    pushTest id (some .integer) fun k => .intBetween (k.number64 low) (k.number64 high)
  | .int64In id ns => pushTest id (some .wideInteger) fun k => .intIn (ns.map k.number64) false
  | .int64NotIn id ns => pushTest id (some .wideInteger) fun k => .intIn (ns.map k.number64) true
  | .int32In id ns => pushTest id (some .narrowInteger) fun k => .intIn (ns.map k.number32) false
  | .int32NotIn id ns => pushTest id (some .narrowInteger) fun k => .intIn (ns.map k.number32) true
  | .doubleGreater id x => do
    refuseNaN id [x]
    pushTest id (some .float) fun _ => .float .gt x
  | .doubleLess id x => do
    refuseNaN id [x]
    pushTest id (some .float) fun _ => .float .lt x
  | .doubleBetween id low high => do
    refuseNaN id [low, high]
    pushTest id (some .float) fun _ => .floatBetween low high
  | .bytesEqual id b => pushTest id (some .byteVector) fun _ => .bytes .eq b
  | .bytesGreater id b orEqual =>
    pushTest id (some .byteVector) fun _ => .bytes (.greater orEqual) b
  | .bytesLess id b orEqual => pushTest id (some .byteVector) fun _ => .bytes (.less orEqual) b
  | .isNull id => pushTest id none fun _ => .null false
  | .notNull id => pushTest id none fun _ => .null true

/-! ## Combinations -/

/-- The slot that an id names, if it can be taken now that the slots of `claimed` are taken. -/
def claim (s : Session) (claimed : List Nat) (c : ConditionId) : Except Refusal Nat :=
  if c.builder ≠ s.id then .error (.foreign c s.id)
  else
    let index := c.index.toNat
    match s.slots[index]? with
    | none => .error (.unknown c)
    | some slot =>
      -- taken by an earlier combination, or listed twice in this one
      if slot.taken || claimed.contains index then .error (.alreadyCombined c) else .ok index

/-- The slots that some ids name, none of which may be claimed twice. -/
def claimAll (s : Session) (claimed : List Nat) : List ConditionId → Except Refusal (List Nat)
  | [] => .ok []
  | c :: rest => do
    let index ← s.claim claimed c
    let others ← s.claimAll (index :: claimed) rest
    return index :: others

def predicatesAt (s : Session) (indexes : List Nat) : List Predicate :=
  indexes.filterMap fun i => s.slots[i]?.map (·.predicate)

def markTaken (s : Session) (indexes : List Nat) : Session :=
  { s with slots := s.slots.mapIdx fun i slot =>
      if indexes.contains i then { slot with taken := true } else slot }

/-- Takes the slots that some ids name, and gives what is in them. No slot is marked before all ids
are found to be good. -/
def take (ids : List ConditionId) : Action Session (List Predicate) := do
  let indexes ← .ofQuestion fun s => (s.claimAll [] ids).mapError Refusal.toError
  modifyGet fun s => (s.predicatesAt indexes, s.markTaken indexes)

def combine (j : Junction) (ids : List ConditionId) : Action Session ConditionId := do
  let children ← take ids
  push (.join j children)

def registrar : Registrar Session where
  register := register
  combine := combine

/-! ## Compiling -/

/-- The conditions that no combination has taken, in the order of their slots. -/
def untaken (s : Session) : List Predicate :=
  (s.slots.filter (!·.taken)).map (·.predicate)

/-- What the session compiles to: the untaken conditions, conjoined. -/
def compiled (s : Session) : Predicate :=
  .conjoin s.untaken

end Session

end EntityQuery
