import EntityQuery.Query

/-!
# The plan slot of a query is empty between calls

A call of a query that holds no plan runs like the same call without a slot: `Query.makePlan` and
`Query.usePlan` are its two halves as actions on the engine alone. Whatever fails, the query that
the call leaves is the query that it was given.

* `Query.run_acquirePlan` says that a plan is in the slot exactly if one was made.
* `Query.run_withPlan` says that the slot is empty again at the end.
* `Query.run_find`, `run_findIds`, `run_count` and `run_describe` say so of the four calls.
-/

namespace EntityQuery

namespace Query

variable {σ α : Type} (E : Engine σ) (e : EntityId) (c : Condition)

/-- Makes a plan in a builder session, which is closed in any case. A plan whose session could not
be closed is closed at once. -/
def makePlanIn (builder : E.Builder) : Action σ E.Plan := do
  let compiled ← (compileIn E builder c).attempt
  let closed ← (E.closeBuilder builder).attempt
  match compiled, closed with
  | .ok plan, .ok () => return plan
  | .ok plan, .error err =>
    let _ ← (E.closePlan plan).attempt
    throw err
  | .error err, _ => throw err

/-- Makes a plan, in a session opened for it. -/
def makePlan : Action σ E.Plan := do
  let builder ← E.newBuilder e
  makePlanIn E c builder

/-- Uses a plan made for this call, and closes it. -/
def usePlan (use : E.Plan → Action σ α) : Action σ α := do
  let plan ← makePlan E e c
  (use plan).thenRelease (E.closePlan plan)

/-- A call that leaves the query as it was. -/
def KeepsQuery (call : Action (σ × Query E.Plan) α) (act : Action σ α) : Prop :=
  ∀ s, call.run (s, ⟨e, c, none⟩) = ((act.run s).1, (act.run s).2, ⟨e, c, none⟩)

theorem run_releasePlan_none (s : σ) :
    (releasePlan E).run (s, ⟨e, c, none⟩) = (.ok (), s, ⟨e, c, none⟩) :=
  rfl

/-- The plan that is held is closed, and the slot is empty whether closing failed or not. -/
theorem run_releasePlan_some (p : E.Plan) (s : σ) :
    (releasePlan E).run (s, ⟨e, c, some p⟩) =
      (((E.closePlan p).run s).1, ((E.closePlan p).run s).2, ⟨e, c, none⟩) :=
  rfl

/-- A plan is made as without a slot, and the slot holds it if it was made. -/
theorem run_acquirePlan (s : σ) :
    (acquirePlan E).run (s, ⟨e, c, none⟩) =
      (((makePlan E e c).run s).1, ((makePlan E e c).run s).2,
        ⟨e, c, ((makePlan E e c).run s).1.toOption⟩) := by
  simp only [acquirePlan, makePlan, makePlanIn, Action.run_bind, run_releasePlan_none,
    Action.run_get, Action.run_onFirst, Action.run_attempt]
  rcases (E.newBuilder e).run s with ⟨_ | builder, s⟩
  · rfl
  · -- the session is closed however compiling ended
    simp only [Action.run_onFirst]
    rcases (compileIn E builder c).run s with ⟨_ | plan, s⟩
    · rfl
    · simp only
      rcases (E.closeBuilder builder).run s with ⟨_ | _, s⟩ <;> rfl

/-- What is done with a plan is done as without a slot, and the slot is empty afterwards. -/
theorem run_withPlan (use : E.Plan → Action σ α) :
    KeepsQuery E e c (withPlan E use) (usePlan E e c use) := by
  intro s
  simp only [withPlan, usePlan, Action.run_bind, run_acquirePlan]
  -- without a plan there is nothing to use or close
  rcases (makePlan E e c).run s with ⟨_ | plan, s⟩
  · rfl
  · simp only [Action.run_thenRelease, Action.run_onFirst, Except.toOption, run_releasePlan_some]

/-- A cursor is opened under the plan, so the slot is as empty as before. -/
theorem run_withPlanAndCursor (use : E.Plan → E.Cursor → Action σ α) :
    KeepsQuery E e c (withPlanAndCursor E use)
      (usePlan E e c fun plan => E.withCursor e .readOnly (use plan)) :=
  run_withPlan E e c _

/-- Finding keeps the query, however the decoding of what is found ends. -/
theorem run_find (decode : Bytes → Except Error α) :
    KeepsQuery E e c (find E decode) (usePlan E e c fun plan => E.withCursor e .readOnly fun k => do
      let records ← E.find plan k
      records.mapM fun bytes => MonadExcept.ofExcept (decode bytes)) :=
  run_withPlanAndCursor E e c _

/-- Finding ids keeps the query. -/
theorem run_findIds :
    KeepsQuery E e c (findIds E)
      (usePlan E e c fun plan => E.withCursor e .readOnly (E.findIds plan)) :=
  run_withPlanAndCursor E e c _

theorem run_count :
    KeepsQuery E e c (count E)
      (usePlan E e c fun plan => E.withCursor e .readOnly (E.count plan)) :=
  run_withPlanAndCursor E e c _

theorem run_describe : KeepsQuery E e c (describe E) (usePlan E e c E.describe) :=
  run_withPlan E e c _

end Query

end EntityQuery
