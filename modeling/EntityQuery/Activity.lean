import EntityQuery.Script

/-!
# Activities of a client

A script fixes its steps beforehand. In an activity each step may depend on the replies so far and
on all there is to see of the client, and the work that is done with a cursor is an activity in its
own right: it can use the cursors that it runs under, but it cannot close them.
-/

namespace EntityQuery

/-- An engine as part of something larger. -/
@[reducible]
def Engine.lift {σ τ : Type} (E : Engine σ) (up : ∀ {α : Type}, Action σ α → Action τ α) :
    Engine τ where
  Builder := E.Builder
  Plan := E.Plan
  Tx := E.Tx
  Cursor := E.Cursor
  newBuilder e := up (E.newBuilder e)
  registrar b :=
    { register := fun p => up ((E.registrar b).register p)
      combine := fun j ids => up ((E.registrar b).combine j ids) }
  compile b := up (E.compile b)
  closeBuilder b := up (E.closeBuilder b)
  find p k := up (E.find p k)
  findIds p k := up (E.findIds p k)
  count p k := up (E.count p k)
  describe p := up (E.describe p)
  closePlan p := up (E.closePlan p)
  beginTx mode := up (E.beginTx mode)
  endTx t := up (E.endTx t)
  openCursor t e := up (E.openCursor t e)
  closeCursor k := up (E.closeCursor k)

/-- The calls that answer with what a plan matches. -/
inductive Search where
  | find
  | findIds
  | count

inductive Activity where
  /-- The end, which is a failure or an answer. -/
  | done (outcome : Except Error Reply)
  | look (next : Client → Activity)
  | step (s : Step) (next : Reply → Activity)
  /-- Runs a plan with a cursor that the activity runs under, the innermost one being 0. -/
  | search (how : Search) (plan : HandleNumber) (depth : Nat) (next : Reply → Activity)
  | withCursor (entity : EntityId) (mode : TxMode) (body : Activity)
    (next : Except Error Reply → Activity)

namespace Client

def onStore {α : Type} (act : Action ClientStore α) : Action Client α :=
  .ofFun fun c => c.run act

def search (c : Client) (how : Search) (p : Memory.Plan) (k : Memory.Cursor) : Reply × Client :=
  match how with
  | .find => c.answer (engine.find p k) .records
  | .findIds => c.answer (engine.findIds p k) .objects
  | .count => c.answer (engine.count p k) .number

end Client

namespace Activity

/-- Performs an activity under some cursors, the innermost one first. -/
def perform (cursors : List Memory.Cursor) : Activity → Action Client Reply
  | done outcome => MonadExcept.ofExcept outcome
  | look next => do
    let c ← get
    perform cursors (next c)
  | step s next => do
    let r ← .ofFun fun c => ((c.step s).map .ok id)
    perform cursors (next r)
  | search how plan depth next => do
    let r ← .ofFun fun c =>
      match c.plans.at? plan, cursors[depth]? with
      | some p, some k => (c.search how p k).map .ok id
      | _, _ => (.ok .noHandle, c)
    perform cursors (next r)
  | withCursor e mode body next => do
    let outcome ← ((Client.engine.lift Client.onStore).withCursor e mode fun k =>
      perform (k :: cursors) body).attempt
    perform cursors (next outcome)

end Activity

/-- The client after some activities, one after the other. -/
def Client.afterAll (c : Client) (acts : List Activity) : Client :=
  acts.foldl (fun c a => ((a.perform []).run c).2) c

end EntityQuery
