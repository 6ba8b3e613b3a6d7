import EntityQuery.Engine

/-!
# Query builders

A query builder is a builder session in the caller's hands, with a count of what was registered in
it.
-/

namespace EntityQuery

/-- An open builder session. -/
structure QueryBuilder (Builder : Type) where
  entity : EntityId
  handle : Builder
  /-- How many conditions were registered, combinations included. -/
  registered : Nat

namespace QueryBuilder

variable {σ : Type} (E : Engine σ)

def acquire (entity : EntityId) : Action σ (QueryBuilder E.Builder) := do
  let handle ← E.newBuilder entity
  return ⟨entity, handle, 0⟩

/-- Runs a call of the session, and counts it if it succeeds. -/
def counted {α : Type} (call : E.Builder → Action σ α) : Action (σ × QueryBuilder E.Builder) α := do
  let (_, b) ← get
  let a ← (call b.handle).onFirst
  modify fun (s, b) => (s, { b with registered := b.registered + 1 })
  return a

def registrar : Registrar (σ × QueryBuilder E.Builder) where
  register p := counted E fun b => (E.registrar b).register p
  combine j ids := counted E fun b => (E.registrar b).combine j ids

/-- Compiles what is registered; the session stays open. -/
def compile : Action (σ × QueryBuilder E.Builder) E.Plan := do
  let (_, b) ← get
  (E.compile b.handle).onFirst

def close (b : QueryBuilder E.Builder) : Action σ Unit :=
  E.closeBuilder b.handle

/-- Closes the session when it is thrown away. A failure is passed over. -/
def discard (b : QueryBuilder E.Builder) : Action σ Unit := do
  let _ ← (E.closeBuilder b.handle).attempt
  return ()

end QueryBuilder

end EntityQuery
