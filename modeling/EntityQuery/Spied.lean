import EntityQuery.Engine

/-!
# Engines under observation

`Engine.spied` puts a spy in front of an engine: every call is noted with its operands and with how
it ended, and chosen calls fail. A call whose name is listed as a fault fails; a release still gives
back its handle before it fails, any other call has no effect. So a failing acquisition acquires
nothing, and a failing release leaves nothing open.

* `Call.perform` makes a call of an engine, so that an engine is the calls it answers.
* `Spied.call` makes a call past the spy.
-/

namespace EntityQuery

inductive Call {σ : Type} (E : Engine σ) where
  | newBuilder (entity : EntityId)
  | register (b : E.Builder) (p : Primitive)
  | combine (b : E.Builder) (j : Junction) (ids : List ConditionId)
  | compile (b : E.Builder)
  | closeBuilder (b : E.Builder)
  | find (p : E.Plan) (k : E.Cursor)
  | findIds (p : E.Plan) (k : E.Cursor)
  | count (p : E.Plan) (k : E.Cursor)
  | describe (p : E.Plan)
  | closePlan (p : E.Plan)
  | beginTx (mode : TxMode)
  | endTx (t : E.Tx)
  | openCursor (t : E.Tx) (entity : EntityId)
  | closeCursor (k : E.Cursor)

namespace Call

variable {σ : Type} {E : Engine σ}

@[reducible]
def Result : Call E → Type
  | newBuilder _ => E.Builder
  | register .. | combine .. => ConditionId
  | compile _ => E.Plan
  | find .. => List Bytes
  | findIds .. => List ObjectId
  | count .. => Nat
  | describe _ => String
  | beginTx _ => E.Tx
  | openCursor .. => E.Cursor
  | closeBuilder _ | closePlan _ | endTx _ | closeCursor _ => Unit

def perform : (c : Call E) → Action σ c.Result
  | newBuilder e => E.newBuilder e
  | register b p => (E.registrar b).register p
  | combine b j ids => (E.registrar b).combine j ids
  | compile b => E.compile b
  | closeBuilder b => E.closeBuilder b
  | find p k => E.find p k
  | findIds p k => E.findIds p k
  | count p k => E.count p k
  | describe p => E.describe p
  | closePlan p => E.closePlan p
  | beginTx mode => E.beginTx mode
  | endTx t => E.endTx t
  | openCursor t e => E.openCursor t e
  | closeCursor k => E.closeCursor k

/-- The name that a fault is switched by. -/
def name : Call E → String
  | newBuilder _ => "new_builder"
  | register _ p => p.name
  | combine _ .all _ => "all"
  | combine _ .any _ => "any"
  | compile _ => "compile"
  | closeBuilder _ => "close_builder"
  | find .. => "find"
  | findIds .. => "find_ids"
  | count .. => "count"
  | describe _ => "describe"
  | closePlan _ => "close_query"
  | beginTx _ => "begin_tx"
  | endTx _ => "end_tx"
  | openCursor .. => "cursor"
  | closeCursor _ => "close_cursor"

/-- The error of a call that is made to fail. -/
def injected (c : Call E) : Error :=
  let text := "injected " ++ c.name ++ " failure"
  match c with
  | register .. | combine .. | compile _ => .build text
  | find .. | findIds .. | count .. | describe _ => .execution text
  | closeBuilder _ | closePlan _ | closeCursor _ => .release text
  | beginTx _ | endTx _ => .transaction text
  | newBuilder _ | openCursor .. => .storage text

/-- Whether the call gives back a handle. -/
def isRelease : Call E → Bool
  | closeBuilder _ | closePlan _ | endTx _ | closeCursor _ => true
  | _ => false

end Call

/-- A call that was made, and how it ended. -/
structure Event {σ : Type} (E : Engine σ) where
  call : Call E
  outcome : Except Error call.Result

/-- An engine's state under observation: the calls to be made to fail, by name, and what was called
so far. -/
structure Spied {σ : Type} (E : Engine σ) where
  inner : σ
  faults : List String
  events : List (Event E)

namespace Spied

variable {σ : Type} {E : Engine σ}

def setFault (s : Spied E) (name : String) (on : Bool) : Spied E :=
  let others := s.faults.filter (· != name)
  { s with faults := if on then name :: others else others }

/-- What a call gives while some calls are made to fail, and what it leaves behind. -/
def outcomeOf (faults : List String) (c : Call E) (s : σ) : Except Error c.Result × σ :=
  if faults.contains c.name then
    -- a handle is given back whatever the caller is told
    (.error c.injected, if c.isRelease then (c.perform.run s).2 else s)
  else c.perform.run s

def call (c : Call E) : Action (Spied E) c.Result :=
  .ofFun fun s =>
    let (outcome, inner) := outcomeOf s.faults c s.inner
    (outcome, { s with inner := inner, events := s.events ++ [⟨c, outcome⟩] })

end Spied

namespace Engine

open Spied

@[reducible]
def spied {σ : Type} (E : Engine σ) : Engine (Spied E) where
  Builder := E.Builder
  Plan := E.Plan
  Tx := E.Tx
  Cursor := E.Cursor
  newBuilder e := call (.newBuilder e)
  registrar b :=
    { register := fun p => call (.register b p)
      combine := fun j ids => call (.combine b j ids) }
  compile b := call (.compile b)
  closeBuilder b := call (.closeBuilder b)
  find p k := call (.find p k)
  findIds p k := call (.findIds p k)
  count p k := call (.count p k)
  describe p := call (.describe p)
  closePlan p := call (.closePlan p)
  beginTx mode := call (.beginTx mode)
  endTx t := call (.endTx t)
  openCursor t e := call (.openCursor t e)
  closeCursor k := call (.closeCursor k)

end Engine

end EntityQuery
