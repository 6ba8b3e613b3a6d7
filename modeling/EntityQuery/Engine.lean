import EntityQuery.Action
import EntityQuery.Primitive

/-!
# Storage engines

What a storage engine offers to queries. An engine is its calls, each an action on the engine's own
state. Builders, plans, transactions and cursors are handles: each is acquired by one call and given
back to exactly one release call. Nothing is assumed of how the calls behave.

* `Comparison.apply` forwards a comparison to its primitive, and `Condition.registerIn` registers a
  condition with a builder session, children first.
* `Engine.withCursor` brackets an action between the acquisition and the release of a transaction
  and a cursor.
-/

namespace EntityQuery

/-- A builder session's own calls: what it takes to register conditions in it. -/
structure Registrar (τ : Type) where
  /-- Makes a call of one of the leaf primitives. -/
  register : Primitive → Action τ ConditionId
  combine : Junction → List ConditionId → Action τ ConditionId

/-- A storage engine with states in `σ`. -/
structure Engine (σ : Type) where
  Builder : Type
  Plan : Type
  Tx : Type
  /-- Handles of cursors, each bound to one entity within a transaction. -/
  Cursor : Type
  newBuilder : EntityId → Action σ Builder
  registrar : Builder → Registrar σ
  compile : Builder → Action σ Plan
  closeBuilder : Builder → Action σ Unit
  /-- The records that match, in the order of their ids. -/
  find : Plan → Cursor → Action σ (List Bytes)
  /-- The ids of the objects that match, ascending. -/
  findIds : Plan → Cursor → Action σ (List ObjectId)
  count : Plan → Cursor → Action σ Nat
  describe : Plan → Action σ String
  closePlan : Plan → Action σ Unit
  beginTx : TxMode → Action σ Tx
  endTx : Tx → Action σ Unit
  openCursor : Tx → EntityId → Action σ Cursor
  closeCursor : Cursor → Action σ Unit

/-- Registers a comparison by the primitive that its operator stands for. -/
def Comparison.apply {τ : Type} (r : Registrar τ) (c : Comparison) : Action τ ConditionId :=
  r.register c.primitive

namespace Condition

mutual

/-- Registers a condition and gives the id of its root. The children of a junction come first, from
left to right; the first refusal ends the walk and is handed on unchanged. -/
def registerIn {τ : Type} (r : Registrar τ) : Condition → Action τ ConditionId
  | compare c => c.apply r
  | join j children => do
    let ids ← registerList r children
    r.combine j ids

def registerList {τ : Type} (r : Registrar τ) : List Condition → Action τ (List ConditionId)
  | [] => return []
  | c :: rest => do
    let id ← registerIn r c
    let ids ← registerList r rest
    return id :: ids

end

end Condition

namespace Engine

variable {σ α : Type} (E : Engine σ)

/-- Runs an action with a cursor over an entity. The cursor is closed and the transaction ended
whatever happens, and the action's own error is reported before an error of a release. -/
def withCursor (entity : EntityId) (mode : TxMode) (body : E.Cursor → Action σ α) : Action σ α := do
  let tx ← E.beginTx mode
  -- everything between the two ends of the transaction, the cursor included
  let inTx : Action σ α := do
    let cursor ← E.openCursor tx entity
    (body cursor).thenRelease (E.closeCursor cursor)
  inTx.thenRelease (E.endTx tx)

variable {E} {P : σ → Prop} {Q : E.Tx → σ → Prop} {R : E.Tx → E.Cursor → σ → Prop}

theorem withCursor_leads {e : EntityId} {mode : TxMode} {body : E.Cursor → Action σ α}
    (hbegin : (E.beginTx mode).Acquires P Q) (hopen : ∀ t, (E.openCursor t e).Acquires (Q t) (R t))
    (hbody : ∀ t k, (body k).Leads (R t k) (R t k))
    (hclose : ∀ t k, (E.closeCursor k).Leads (R t k) (Q t))
    (hend : ∀ t, (E.endTx t).Leads (Q t) P) : (E.withCursor e mode body).Leads P P := by
  refine hbegin.bind fun t => Action.Leads.thenRelease ?_ (hend t)
  exact (hopen t).bind fun k => (hbody t k).thenRelease (hclose t k)

end Engine

end EntityQuery
