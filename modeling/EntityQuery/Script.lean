import EntityQuery.Condition.Display
import EntityQuery.Memory
import EntityQuery.Query
import EntityQuery.QueryBuilder
import EntityQuery.Spied
import EntityQuery.TypedRead

/-!
# Scripts of a client

What a client does with a store, step by step. A client works on a memory store under observation:
schema changes and writes go to the store itself, everything else goes past the spy. The handles
that steps give out are numbered by sort, in the order in which they were given out, and a handle is
good until a step gives it back.

* `Client.step` takes one step and answers it with a `Reply`.
* `Client.after` also tells what is open and which calls were made once the step is over.
* `Client.runScript` takes the steps of a script in order.
-/

namespace EntityQuery

/-! ## Steps and replies -/

/-- The number of a handle among those of its sort. -/
abbrev HandleNumber := Nat

abbrev FieldRead := PropertyId × ReadType

inductive CursorUse where
  | fail (e : Error)
  | findIds (plan : HandleNumber)
  /-- Looks at the cursor and at how many are open. -/
  | look

inductive Step where
  | register (model : EntityModel)
  | model (entity : EntityId)
  | put (entity : EntityId) (properties : PropertyMap)
  | putAll (entity : EntityId) (rows : List PropertyMap)
  | remove (entity : EntityId) (object : ObjectId)
  | get (entity : EntityId) (object : ObjectId)
  | limit
  | fault (name : String) (on : Bool)
  | query (entity : EntityId) (condition : Condition)
  | setCondition (query : HandleNumber) (condition : Condition)
  | dropQuery (query : HandleNumber)
  | find (query : HandleNumber) (reads : List FieldRead)
  | findIds (query : HandleNumber)
  | count (query : HandleNumber)
  | describe (query : HandleNumber)
  | info (query : HandleNumber)
  | ask (entity : EntityId) (condition : Condition)
  | openBuilder (entity : EntityId)
  | applyTo (builder : HandleNumber) (comparison : Comparison)
  | combineIn (builder : HandleNumber) (j : Junction) (ids : List ConditionId)
  | compile (builder : HandleNumber)
  | closeBuilder (builder : HandleNumber)
  | openQueryBuilder (entity : EntityId)
  | builderInfo (queryBuilder : HandleNumber)
  | registerIn (queryBuilder : HandleNumber) (comparison : Comparison)
  | registerAll (queryBuilder : HandleNumber) (condition : Condition)
  | join (queryBuilder : HandleNumber) (j : Junction) (ids : List ConditionId)
  | compileIn (queryBuilder : HandleNumber)
  | closeQueryBuilder (queryBuilder : HandleNumber)
  | dropQueryBuilder (queryBuilder : HandleNumber)
  | planFind (plan cursor : HandleNumber)
  | planFindIds (plan cursor : HandleNumber)
  | planCount (plan cursor : HandleNumber)
  | planDescribe (plan : HandleNumber)
  | closePlan (plan : HandleNumber)
  | beginTx (mode : TxMode)
  | endTx (tx : HandleNumber)
  | openCursor (tx : HandleNumber) (entity : EntityId)
  | closeCursor (cursor : HandleNumber)
  | withCursor (entity : EntityId) (mode : TxMode) (use : CursorUse)

structure Reading where
  type : ReadType
  value : type.Carrier

/-- An object as a client decodes it: its id and what was read of it. -/
structure Found where
  id : ObjectId
  readings : List Reading

inductive Reply where
  | done
  | failed (e : Error)
  /-- The step names a handle that was given back or never given out. -/
  | noHandle
  | flag (b : Bool)
  | number (n : Nat)
  | text (s : String)
  | schema (m : EntityModel)
  | object (o : ObjectId)
  | objects (os : List ObjectId)
  | puts (outcomes : List (Except Error ObjectId))
  | record (r : Option Bytes)
  | records (rs : List Bytes)
  | found (objects : List Found)
  | limit (n : Option Nat)
  | condition (id : ConditionId)
  | query (number : HandleNumber)
  | queryInfo (entity : EntityId) (condition : Condition) (built : Bool)
  | asked (description : Except Error String) (ids : Except Error (List ObjectId))
  | builder (number : HandleNumber) (handle : Memory.Builder)
  | queryBuilder (number : HandleNumber)
  | builderInfo (entity : EntityId) (registered : Nat)
  | plan (number : HandleNumber) (handle : Memory.Plan)
  | tx (number : HandleNumber) (handle : Memory.Tx)
  | cursor (number : HandleNumber) (handle : Memory.Cursor)
  /-- The entity of a cursor, and how many cursors are open. -/
  | looked (entity : EntityId) (cursors : Nat)

/-! ## Clients -/

/-- The handles of one sort, in the order in which they were given out, without those given back. -/
abbrev Handles (α : Type) := List (Option α)

abbrev ClientStore : Type := Spied Memory.engine

/-- A client at work: the store it works on and the handles it holds. -/
structure Client where
  store : ClientStore
  queries : Handles (Query Memory.Plan)
  builders : Handles Memory.Builder
  queryBuilders : Handles (QueryBuilder Memory.Builder)
  plans : Handles Memory.Plan
  txs : Handles Memory.Tx
  cursors : Handles Memory.Cursor

namespace Handles

variable {α : Type}

def at? (hs : Handles α) (n : HandleNumber) : Option α :=
  hs[n]?.join

/-- Keeps one more handle. Its number is the length of the list before. -/
def add (hs : Handles α) (a : α) : Handles α :=
  hs ++ [some a]

def held (hs : Handles α) : Nat :=
  (hs.filter Option.isSome).length

end Handles

namespace Found

/-- Decodes a record and reads some of its properties in order, up to the first that cannot be
read. -/
def decode (reads : List FieldRead) (bytes : Bytes) : Except Error Found := do
  let r ← Record.decode bytes
  let readings ← reads.mapM fun (p, t) => do
    let value ← r.get t p
    return (⟨t, value⟩ : Reading)
  return ⟨r.id, readings⟩

end Found

namespace Client

abbrev engine : Engine ClientStore :=
  Memory.engine.spied

def new (limit : Option Nat) : Client where
  store := ⟨.new limit, [], []⟩
  queries := []
  builders := []
  queryBuilders := []
  plans := []
  txs := []
  cursors := []

def reply {α : Type} (toReply : α → Reply) : Except Error α → Reply
  | .ok a => toReply a
  | .error e => .failed e

/-- Works on the store itself, past the spy. -/
def onMemory {α : Type} (c : Client) (act : Action Memory α) (toReply : α → Reply) :
    Reply × Client :=
  let (outcome, m) := act.run c.store.inner
  (reply toReply outcome, { c with store := { c.store with inner := m } })

def run {α : Type} (c : Client) (act : Action ClientStore α) : Except Error α × Client :=
  let (outcome, store) := act.run c.store
  (outcome, { c with store := store })

def answer {α : Type} (c : Client) (act : Action ClientStore α) (toReply : α → Reply) :
    Reply × Client :=
  let (outcome, c) := c.run act
  (reply toReply outcome, c)

/-- Uses a handle that a step names. -/
def withHandle {α : Type} (c : Client) (hs : Handles α) (n : HandleNumber)
    (use : α → Reply × Client) : Reply × Client :=
  match hs.at? n with
  | some a => use a
  | none => (.noHandle, c)

/-- Keeps what was given out. -/
def keep {α : Type} (keeping : Client → α → Reply × Client) :
    Except Error α × Client → Reply × Client
  | (.ok a, c) => keeping c a
  | (.error e, c) => (.failed e, c)

def onQuery {α : Type} (c : Client) (n : HandleNumber)
    (act : Action (ClientStore × Query Memory.Plan) α) (toReply : α → Reply) :
    Reply × Client :=
  c.withHandle c.queries n fun q =>
    let (outcome, store, q) := act.run (c.store, q)
    (reply toReply outcome, { c with store := store, queries := c.queries.set n (some q) })

def onQueryBuilder {α : Type} (c : Client) (n : HandleNumber)
    (act : Action (ClientStore × QueryBuilder Memory.Builder) α)
    (continuing : Except Error α × Client → Reply × Client) : Reply × Client :=
  c.withHandle c.queryBuilders n fun b =>
    let (outcome, store, b) := act.run (c.store, b)
    continuing (outcome,
      { c with store := store, queryBuilders := c.queryBuilders.set n (some b) })

def answerQueryBuilder {α : Type} (c : Client) (n : HandleNumber)
    (act : Action (ClientStore × QueryBuilder Memory.Builder) α) (toReply : α → Reply) :
    Reply × Client :=
  c.onQueryBuilder n act fun (outcome, c) => (reply toReply outcome, c)

def addPlan (c : Client) (p : Memory.Plan) : Reply × Client :=
  (.plan c.plans.length p, { c with plans := c.plans.add p })

def usePlan {α : Type} (c : Client) (plan cursor : HandleNumber)
    (act : Memory.Plan → Memory.Cursor → Action ClientStore α) (toReply : α → Reply) :
    Reply × Client :=
  c.withHandle c.plans plan fun p =>
    c.withHandle c.cursors cursor fun k => c.answer (act p k) toReply

/-- What is done while a cursor is open, as an action. -/
def cursorAction (c : Client) (use : CursorUse) : Memory.Cursor → Action ClientStore Reply :=
  match use with
  | .fail e => fun _ => throw e
  | .findIds plan =>
    match c.plans.at? plan with
    | some p => fun k => do
      let ids ← engine.findIds p k
      return .objects ids
    | none => fun _ => return .noHandle
  | .look => fun k => do
    let s ← get
    return .looked k.entity s.inner.cursors.length

/-- Stores one of several objects. One that is refused does not keep the next ones out. -/
def putRow (e : EntityId) (done : List (Except Error ObjectId) × Memory)
    (properties : PropertyMap) : List (Except Error ObjectId) × Memory :=
  let (outcome, m) := (Memory.put e properties).run done.2
  (done.1 ++ [outcome], m)

def putRows (e : EntityId) (rows : List PropertyMap) :
    Action Memory (List (Except Error ObjectId)) :=
  .ofFun fun m =>
    let (outcomes, m) := rows.foldl (putRow e) ([], m)
    (.ok outcomes, m)

/-! ## Taking steps -/

def step (c : Client) : Step → Reply × Client
  | .register model => c.onMemory (modify (·.register model)) fun _ => .done
  | .model e => (reply .schema (c.store.inner.model e), c)
  | .put e properties => c.onMemory (Memory.put e properties) .object
  | .putAll e rows => c.onMemory (putRows e rows) .puts
  | .remove e o => c.onMemory (Memory.remove e o) .flag
  | .get e o => (reply .record (c.store.inner.get e o), c)
  | .limit => (.limit c.store.inner.limit, c)
  | .fault name on => (.done, { c with store := c.store.setFault name on })
  | .query e condition =>
    (.query c.queries.length, { c with queries := c.queries.add ⟨e, condition, none⟩ })
  | .setCondition n condition =>
    c.withHandle c.queries n fun q =>
      (.done, { c with queries := c.queries.set n (some (q.setCondition condition)) })
  | .dropQuery n =>
    let (r, c) := c.onQuery n (Query.discard engine) fun _ => .done
    (r, { c with queries := c.queries.set n none })
  | .find n reads => c.onQuery n (Query.find engine (Found.decode reads)) .found
  | .findIds n => c.onQuery n (Query.findIds engine) .objects
  | .count n => c.onQuery n (Query.count engine) .number
  | .describe n => c.onQuery n (Query.describe engine) .text
  | .info n =>
    c.withHandle c.queries n fun q => (.queryInfo q.entity q.condition q.isBuilt, c)
  | .ask e condition =>
    -- both calls are made on one query, which is thrown away afterwards
    let (description, s) := (Query.describe engine).run (c.store, ⟨e, condition, none⟩)
    let (ids, s) := (Query.findIds engine).run s
    let (_, store, _) := (Query.discard engine).run s
    (.asked description ids, { c with store := store })
  | .openBuilder e =>
    keep (fun c b => (.builder c.builders.length b, { c with builders := c.builders.add b }))
      (c.run (engine.newBuilder e))
  | .applyTo n comparison =>
    c.withHandle c.builders n fun b =>
      c.answer (comparison.apply (engine.registrar b)) .condition
  | .combineIn n j ids =>
    c.withHandle c.builders n fun b => c.answer ((engine.registrar b).combine j ids) .condition
  | .compile n =>
    c.withHandle c.builders n fun b => keep addPlan (c.run (engine.compile b))
  | .closeBuilder n =>
    c.withHandle c.builders n fun b =>
      { c with builders := c.builders.set n none }.answer (engine.closeBuilder b) fun _ => .done
  | .openQueryBuilder e =>
    keep (fun c b => (.queryBuilder c.queryBuilders.length,
        { c with queryBuilders := c.queryBuilders.add b }))
      (c.run (QueryBuilder.acquire engine e))
  | .builderInfo n =>
    c.withHandle c.queryBuilders n fun b => (.builderInfo b.entity b.registered, c)
  | .registerIn n comparison =>
    c.answerQueryBuilder n (comparison.apply (QueryBuilder.registrar engine)) .condition
  | .registerAll n condition =>
    c.answerQueryBuilder n (condition.registerIn (QueryBuilder.registrar engine)) .condition
  | .join n j ids =>
    c.answerQueryBuilder n ((QueryBuilder.registrar engine).combine j ids) .condition
  | .compileIn n => c.onQueryBuilder n (QueryBuilder.compile engine) (keep addPlan)
  | .closeQueryBuilder n =>
    c.withHandle c.queryBuilders n fun b =>
      { c with queryBuilders := c.queryBuilders.set n none }.answer
        (QueryBuilder.close engine b) fun _ => .done
  | .dropQueryBuilder n =>
    c.withHandle c.queryBuilders n fun b =>
      { c with queryBuilders := c.queryBuilders.set n none }.answer
        (QueryBuilder.discard engine b) fun _ => .done
  | .planFind p k => c.usePlan p k engine.find .records
  | .planFindIds p k => c.usePlan p k engine.findIds .objects
  | .planCount p k => c.usePlan p k engine.count .number
  | .planDescribe n => c.withHandle c.plans n fun p => c.answer (engine.describe p) .text
  | .closePlan n =>
    c.withHandle c.plans n fun p =>
      { c with plans := c.plans.set n none }.answer (engine.closePlan p) fun _ => .done
  | .beginTx mode =>
    keep (fun c t => (.tx c.txs.length t, { c with txs := c.txs.add t }))
      (c.run (engine.beginTx mode))
  | .endTx n =>
    c.withHandle c.txs n fun t =>
      { c with txs := c.txs.set n none }.answer (engine.endTx t) fun _ => .done
  | .openCursor n e =>
    c.withHandle c.txs n fun t =>
      keep (fun c k => (.cursor c.cursors.length k, { c with cursors := c.cursors.add k }))
        (c.run (engine.openCursor t e))
  | .closeCursor n =>
    c.withHandle c.cursors n fun k =>
      { c with cursors := c.cursors.set n none }.answer (engine.closeCursor k) fun _ => .done
  | .withCursor e mode use => c.answer (engine.withCursor e mode (c.cursorAction use)) id

/-- What can be seen of a client once a step is over. -/
structure After where
  reply : Reply
  /-- How many builder sessions, plans and cursors the store counts as open. -/
  openBuilders : Nat
  openPlans : Nat
  openCursors : Nat
  calls : List (Call Memory.engine)

/-- Takes one step and tells what can be seen after it. -/
def after (c : Client) (s : Step) : After × Client :=
  let (r, c) := { c with store := { c.store with events := [] } }.step s
  let m := c.store.inner
  (⟨r, m.sessions.length, m.plans.length, m.cursors.length, c.store.events.map (·.call)⟩, c)

def runScript (c : Client) : List Step → List After
  | [] => []
  | s :: rest =>
    let (seen, c) := c.after s
    seen :: c.runScript rest

end Client

end EntityQuery
