import EntityQuery.Engine

/-!
# Queries

A query is a condition on one entity that is compiled only while a call is running. Every call
acquires a plan, uses it and releases it again. A query keeps the plan it holds in a slot of its
own; the slot is empty before and after every call (`Query.isBuilt`), also when the call fails.
-/

namespace EntityQuery

/-- A filter over the objects of one entity, with the plan it holds while a call is running. -/
structure Query (Plan : Type) where
  entity : EntityId
  condition : Condition
  plan? : Option Plan := none

namespace Query

def isBuilt {Plan : Type} (q : Query Plan) : Bool :=
  q.plan?.isSome

def setCondition {Plan : Type} (q : Query Plan) (c : Condition) : Query Plan :=
  { q with condition := c }

variable {σ α : Type} (E : Engine σ)

/-- The plan that the query holds is taken out of it, and closed. -/
def releasePlan : Action (σ × Query E.Plan) Unit := do
  let (_, q) ← get
  match q.plan? with
  | none => return ()
  | some plan =>
    -- the slot is emptied first, so a plan whose release fails is not released again
    modify fun (s, q) => (s, { q with plan? := none })
    (E.closePlan plan).onFirst

def compileIn (builder : E.Builder) (c : Condition) : Action σ E.Plan := do
  let _ ← c.registerIn (E.registrar builder)
  E.compile builder

/-- Registers the query's condition with a new builder session and compiles it. The session is
closed also when that fails. If only closing fails, the plan is closed as well, and the query stays
unbuilt. -/
def acquirePlan : Action (σ × Query E.Plan) E.Plan := do
  releasePlan E
  let (_, q) ← get
  let builder ← (E.newBuilder q.entity).onFirst
  -- the session is closed on every path, so neither outcome may end the action yet
  let compiled ← (compileIn E builder q.condition).onFirst.attempt
  let closed ← (E.closeBuilder builder).onFirst.attempt
  match compiled, closed with
  | .ok plan, .ok () =>
    modify fun (s, q) => (s, { q with plan? := some plan })
    return plan
  | .ok plan, .error e =>
    -- nobody has seen the plan yet, so it is given back here; how that ends is not reported
    let _ ← (E.closePlan plan).onFirst.attempt
    throw e
  | .error e, _ => throw e

def withPlan (use : E.Plan → Action σ α) : Action (σ × Query E.Plan) α := do
  let plan ← acquirePlan E
  (use plan).onFirst.thenRelease (releasePlan E)

def withPlanAndCursor (use : E.Plan → E.Cursor → Action σ α) : Action (σ × Query E.Plan) α := do
  let (_, q) ← get
  withPlan E fun plan => E.withCursor q.entity .readOnly (use plan)

/-- The matching objects, decoded in order. The first record that cannot be decoded fails the
call. -/
def find (decode : Bytes → Except Error α) : Action (σ × Query E.Plan) (List α) :=
  withPlanAndCursor E fun plan cursor => do
    let records ← E.find plan cursor
    records.mapM fun bytes => MonadExcept.ofExcept (decode bytes)

def findIds : Action (σ × Query E.Plan) (List ObjectId) :=
  withPlanAndCursor E E.findIds

def count : Action (σ × Query E.Plan) Nat :=
  withPlanAndCursor E E.count

/-- The engine's description of the compiled query, which is not run. -/
def describe : Action (σ × Query E.Plan) String :=
  withPlan E E.describe

/-- Gives back what the query still holds when it is thrown away. A failure is passed over. -/
def discard : Action (σ × Query E.Plan) Unit := do
  let _ ← (releasePlan E).attempt
  return ()

end Query

end EntityQuery
