import EntityQuery.Engine
import EntityQuery.Predicate.Display
import EntityQuery.Record
import EntityQuery.Session

/-!
# The memory store

Entities are kept in memory as encoded records, and queries scan them. There are two tables: one of
the schemas, by entity, and one of the record tables, by entity as well. Registering an entity
writes to both. Object ids come from one counter for all entities.

The store keeps track of the handles it has given out and not got back: builder sessions, plans and
cursors. A handle that is not open any more is refused. `Memory.engine` is the store as an engine.
-/

namespace EntityQuery

structure Memory where
  /-- How many records one search may return. -/
  limit : Option Nat
  schemas : Table EntityId EntityModel
  /-- The encoded records of each entity, by object. -/
  records : Table EntityId (Table ObjectId Bytes)
  nextObject : UInt64
  nextBuilder : UInt64
  nextPlan : UInt64
  nextTx : UInt64
  nextCursor : Nat
  /-- The open builder sessions, newest first. -/
  sessions : List Session
  /-- The plans that are not closed, newest first. -/
  plans : List UInt64
  /-- The cursors that are not closed, newest first. -/
  cursors : List Nat

namespace Memory

structure Builder where
  id : UInt64
  entity : EntityId
  deriving DecidableEq, Repr, Inhabited

structure Plan where
  id : UInt64
  entity : EntityId
  entityName : String
  predicate : Predicate
  deriving Inhabited

/-- A transaction. It marks a span of calls and isolates nothing. -/
structure Tx where
  id : TxId
  mode : TxMode
  deriving DecidableEq, Repr, Inhabited

structure Cursor where
  serial : Nat
  tx : TxId
  entity : EntityId
  deriving DecidableEq, Repr, Inhabited

def new (limit : Option Nat) : Memory where
  limit := limit
  schemas := .empty
  records := .empty
  nextObject := 1
  nextBuilder := 1
  nextPlan := 1
  nextTx := 1
  nextCursor := 0
  sessions := []
  plans := []
  cursors := []

/-! ## Entities and objects -/

/-- Registers an entity, or gives a registered one another schema. A record table that is there
stays as it is. -/
def register (m : Memory) (model : EntityModel) : Memory :=
  let m := { m with records := m.records.update model.id id }
  { m with schemas := m.schemas.insert model.id model }

def model (m : Memory) (e : EntityId) : Except Error EntityModel :=
  match m.schemas.get? e with
  | some model => .ok model
  | none => .error (.unknownEntity e)

/-- The record table of an entity. -/
def objects (m : Memory) (e : EntityId) : Except Error (Table ObjectId Bytes) :=
  match m.records.get? e with
  | some objects => .ok objects
  | none => .error (.unknownEntity e)

/-- The largest finite float of single width. -/
def maxFloat32 : Float :=
  Float.ofBits 0x47EFFFFFE0000000

/-- Whether a value can be stored under a property of a kind. Null always can; a float must be
finite. -/
def admits (k : Kind) : Value → Bool
  | .null => true
  | .bool _ => k == .bool
  | .int n => k.isSigned && k.width?.any fun w =>
    -- every word is a number of the widest kinds
    w == 64 || -(1 <<< Int64.ofNat (w - 1)) ≤ n && n < 1 <<< Int64.ofNat (w - 1)
  | .uint n => k.isUnsigned && k.width?.any fun w => w == 64 || n < 1 <<< UInt64.ofNat w
  | .float x =>
    match k with
    | .float .float64 => x.isFinite
    | .float .float32 => x.isFinite && x.abs ≤ maxFloat32
    | _ => false
  | .string _ => k == .text
  | .bytes _ => k == .byteVector

/-- Whether a value can be stored under a property of an entity. -/
def check (m : EntityModel) (e : EntityId) (p : PropertyId) (v : Value) : Except Error Unit :=
  match m.property? p with
  | none => .error (.unknownProperty e p)
  | some property =>
    if admits property.kind v then .ok ()
    else .error (.typeMismatch p property.kind.name v.typeName)

/-- Whether a new object can be stored. Every value must stand under a declared property and fit its
kind; the first that does not, in the order of the properties, refuses the object. -/
def validate (m : Memory) (e : EntityId) (properties : PropertyMap) : Except Error Unit := do
  let model ← m.model e
  -- the properties come in ascending order, so the refusal names the smallest offender
  properties.toList.forM fun (p, v) => check model e p v

/-- Files a record in the record table of an entity. -/
def file (m : Memory) (e : EntityId) (r : Record) : Memory :=
  { m with records := m.records.update e (·.insert r.id r.encode) }

/-- Stores a new object. An object that is refused uses up no id. -/
def put (e : EntityId) (properties : PropertyMap) : Action Memory ObjectId := do
  .ofQuestion (·.validate e properties)
  let id : ObjectId ← modifyGet fun m => (⟨m.nextObject⟩, { m with nextObject := m.nextObject + 1 })
  modify (·.file e ⟨id, properties⟩)
  return id

/-- Removes an object, and tells whether there was one. -/
def remove (e : EntityId) (o : ObjectId) : Action Memory Bool := do
  let objects ← .ofQuestion (·.objects e)
  modify fun m => { m with records := m.records.insert e (objects.erase o) }
  return (objects.get? o).isSome

def get (m : Memory) (e : EntityId) (o : ObjectId) : Except Error (Option Bytes) := do
  let objects ← m.objects e
  return objects.get? o

/-! ## Builder sessions and plans -/

/-- A handle that was given back already, or never given out. -/
def notOpen (sort : String) (id : Nat) : String :=
  sort ++ " " ++ id.repr ++ " is not open"

/-- Gives back a handle, which has to be open. -/
def giveBack (sort : String) (id : Nat) (isOpen : Memory → Bool) (close : Memory → Memory) :
    Action Memory Unit := do
  .ofQuestion fun m => if isOpen m then .ok () else .error (.release (notOpen sort id))
  modify close

def newBuilder (e : EntityId) : Action Memory Builder := do
  let model ← .ofQuestion (·.model e)
  modifyGet fun m => (⟨m.nextBuilder, model.id⟩, { m with
    nextBuilder := m.nextBuilder + 1
    sessions := .new m.nextBuilder model :: m.sessions })

/-- Makes a call of the newest session of an id. -/
def callFirst {α : Type} (id : UInt64) (act : Action Session α) :
    List Session → Except Error α × List Session
  | [] => (.error (.build (notOpen "builder" id.toNat)), [])
  | s :: rest =>
    if s.id = id then
      let (outcome, s) := act.run s
      (outcome, s :: rest)
    else
      let (outcome, rest) := callFirst id act rest
      (outcome, s :: rest)

def onSession {α : Type} (b : Builder) (act : Action Session α) : Action Memory α :=
  .ofFun fun m =>
    let (outcome, sessions) := callFirst b.id act m.sessions
    (outcome, { m with sessions := sessions })

/-- The newest session of a handle's id. -/
def session (m : Memory) (b : Builder) : Except Error Session :=
  match m.sessions.find? (·.id == b.id) with
  | some s => .ok s
  | none => .error (.build (notOpen "builder" b.id.toNat))

/-- Compiles what an open session holds. The session stays as it is. -/
def compile (b : Builder) : Action Memory Plan := do
  let s ← .ofQuestion (·.session b)
  modifyGet fun m => (⟨m.nextPlan, s.entity, s.model.name, s.compiled⟩, { m with
    nextPlan := m.nextPlan + 1
    plans := m.nextPlan :: m.plans })

def closeBuilder (b : Builder) : Action Memory Unit :=
  giveBack "builder" b.id.toNat (·.sessions.any (·.id == b.id)) fun m =>
    { m with sessions := m.sessions.eraseP (·.id == b.id) }

def closePlan (p : Plan) : Action Memory Unit :=
  giveBack "query" p.id.toNat (·.plans.contains p.id) fun m =>
    { m with plans := m.plans.erase p.id }

/-! ## Transactions, cursors and scans -/

def beginTx (mode : TxMode) : Action Memory Tx :=
  modifyGet fun m => (⟨⟨m.nextTx⟩, mode⟩, { m with nextTx := m.nextTx + 1 })

/-- Opens a cursor, on an entity with a schema only. -/
def openCursor (tx : Tx) (e : EntityId) : Action Memory Cursor := do
  let _ ← .ofQuestion (·.model e)
  modifyGet fun m => (⟨m.nextCursor, tx.id, e⟩, { m with
    nextCursor := m.nextCursor + 1
    cursors := m.nextCursor :: m.cursors })

def closeCursor (c : Cursor) : Action Memory Unit :=
  giveBack "cursor" c.serial (·.cursors.contains c.serial) fun m =>
    { m with cursors := m.cursors.erase c.serial }

/-- The entries whose decoded record satisfies a predicate. A record that cannot be decoded ends the
search. -/
def select (p : Predicate) : List (ObjectId × Bytes) → Except Error (List (ObjectId × Bytes))
  | [] => .ok []
  | (id, bytes) :: rest => do
    let r ← Record.decode bytes
    let selected ← select p rest
    return if p.holds r then (id, bytes) :: selected else selected

/-- The objects that match a plan, in the order of their ids. -/
def matching (m : Memory) (p : Plan) (c : Cursor) : Except Error (List (ObjectId × Bytes)) :=
  if p.entity ≠ c.entity then
    .error (.execution ("query for entity " ++ p.entity.text ++ " run on a cursor for entity "
      ++ c.entity.text))
  else do
    let objects ← m.objects p.entity
    select p.predicate objects.toList

def find (m : Memory) (p : Plan) (c : Cursor) : Except Error (List Bytes) := do
  let matched ← m.matching p c
  if m.limit.any (· < matched.length) then
    .error (.execution ("query matched " ++ matched.length.repr ++ " records, limit is "
      ++ (m.limit.getD 0).repr))
  else return matched.map (·.2)

def findIds (m : Memory) (p : Plan) (c : Cursor) : Except Error (List ObjectId) := do
  let matched ← m.matching p c
  return matched.map (·.1)

def count (m : Memory) (p : Plan) (c : Cursor) : Except Error Nat := do
  let matched ← m.matching p c
  return matched.length

def describe (p : Plan) : String :=
  "Query for entity " ++ p.entityName ++ " (" ++ p.entity.text ++ "): " ++ p.predicate.display

@[reducible]
def engine : Engine Memory where
  Builder := Builder
  Plan := Plan
  Tx := Tx
  Cursor := Cursor
  newBuilder := newBuilder
  registrar b :=
    { register := fun p => onSession b (Session.register p)
      combine := fun j ids => onSession b (Session.combine j ids) }
  compile := compile
  closeBuilder := closeBuilder
  find p c := .ofQuestion (find · p c)
  findIds p c := .ofQuestion (findIds · p c)
  count p c := .ofQuestion (count · p c)
  describe p := return describe p
  closePlan := closePlan
  beginTx := beginTx
  endTx _ := return ()
  openCursor := openCursor
  closeCursor := closeCursor

end Memory

end EntityQuery
