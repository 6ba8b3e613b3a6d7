import EntityQuery.Proofs.PlanSlot
import EntityQuery.Proofs.TwinStores

/-!
# Query calls on two stores with the same contents

A call of a query is a twin of itself on two stores with the same contents, in which the same engine
calls are made to fail: it ends alike, and the stores have the same contents again
(`Memory.twin_usePlan`). The two runs acquire and release handles of their own. These have the same
names for the fault switches, and are used for the same calls.

* `Engine.twin_withCursor` goes through the work with a cursor.
* `Memory.twin_makePlan` goes through the making of a plan, where a failure can lie before or after
  the plan is there.
-/

namespace EntityQuery

open EntityQuery.Action

namespace Engine

variable {σ α : Type} {E : Engine σ} {alike : Error → Error → Prop} {P : σ → σ → Prop}
  {Q : E.Tx → E.Tx → σ → σ → Prop} {R : E.Tx → E.Tx → E.Cursor → E.Cursor → σ → σ → Prop}

/-- Work with a cursor goes through its bracket in both runs. -/
theorem twin_withCursor {e : EntityId} {mode : TxMode} {body body' : E.Cursor → Action σ α}
    (hbegin : Twin alike P Q P (E.beginTx mode) (E.beginTx mode))
    (hopen : ∀ t t', Twin alike (Q t t') (R t t') (Q t t') (E.openCursor t e) (E.openCursor t' e))
    (hbody : ∀ t t' k k',
      Twin alike (R t t' k k') (Same (R t t' k k')) (R t t' k k') (body k) (body' k'))
    (hclose : ∀ t t' k k', Twin alike (R t t' k k') (fun _ _ => Q t t') (Q t t')
      (E.closeCursor k) (E.closeCursor k'))
    (hend : ∀ t t', Twin alike (Q t t') (fun _ _ => P) P (E.endTx t) (E.endTx t')) :
    Twin alike P (Same P) P (E.withCursor e mode body)
      (E.withCursor e mode body') := by
  -- the cursor is released inside the transaction, so two releases are nested
  refine hbegin.bind fun t t' => Twin.thenRelease ?_ (hend t t')
  exact (hopen t t').bind fun k k' => (hbody t t' k k').thenRelease (hclose t t' k k')

end Engine

namespace Memory

open Spied

variable {α : Type} {alike : Error → Error → Prop} {plan? : Option (Plan × Plan)}
  {cursor? : Option (Cursor × Cursor)}

/-! ## Plans

A plan is made past the spy in both runs, with sessions of different ids. Registering and compiling
keep the sessions alike; closing them ends the need to compare their slots. -/

/-- The sessions of two stores that hold the same are registered with alike. -/
theorem twin_registrar (halike : ∀ e, alike e e) (b b' : Builder) (model : EntityModel) :
    Registrar.Twin alike b.id b'.id model
      (fun slots => Over (Held (some ⟨b.id, b'.id, model, slots⟩) plan? cursor?))
      (engine.spied.registrar b) (engine.spied.registrar b') where
  register slots p Q huniform := by
    refine (twin_use (E := engine) (.register b p) (.register b' p) rfl rfl rfl rfl halike
      (twin_onSession huniform rfl rfl)).weaken ?_ fun _ _ h => h
    rintro x x' s s' ⟨hfaults, i, slots', hQ, hx, hx', hheld⟩
    exact ⟨i, slots', hQ, hx, hx', hfaults, hheld⟩
  combine slots j is Q huniform := by
    let combining (b : Builder) : Call engine := .combine b j (is.map (.of b.id))
    have hname : (combining b').name = (combining b).name := by
      cases j <;> rfl
    have hinjected : (combining b').injected = (combining b).injected := by
      cases j <;> rfl
    refine (twin_use (combining b) (combining b') hname hinjected rfl rfl halike
      (twin_onSession huniform rfl rfl)).weaken ?_ fun _ _ h => h
    rintro x x' s s' ⟨hfaults, i, slots', hQ, hx, hx', hheld⟩
    exact ⟨i, slots', hQ, hx, hx', hfaults, hheld⟩

/-- A condition is registered and compiled the same way in fresh sessions of both stores. -/
theorem twin_compileIn (c : Condition) (b b' : Builder) (model : EntityModel) :
    Twin (Error.Alike (2 ^ 32 < c.size))
      (Over (Held (some ⟨b.id, b'.id, model, []⟩) none none))
      (fun p p' => Over (Drafting b b' model (some (p, p')) none))
      (Over (Drafting b b' model none none)) (Query.compileIn engine.spied b c)
      (Query.compileIn engine.spied b' c) := by
  have hregistrar : Registrar.Twin (Error.Alike (2 ^ 32 < c.size)) b.id b'.id model
      (fun slots => Over (Held (some ⟨b.id, b'.id, model, slots⟩) none none))
      (engine.spied.registrar b) (engine.spied.registrar b') :=
    twin_registrar .same b b' model
  -- the sessions are empty, so there are ids for all slots if there are ids for the condition
  have hwalk := Condition.twin_registerIn hregistrar c [] fun hnot => by
    rw [List.length_nil]
    omega
  refine (hwalk.weaken (fun _ _ _ _ h => h) ?_).bind fun x x' => ?_
  · rintro s s' ⟨slots, hfaults, hheld⟩
    exact ⟨hfaults, slots, hheld⟩
  · rintro s s' ⟨i, slots, -, -, -, hfaults, hheld⟩
    exact twin_use (E := engine) (.compile b) (.compile b') rfl rfl rfl rfl .same twin_compile s s'
      ⟨hfaults, slots, hheld⟩

/-- The sessions are closed past the spy, whether that is made to fail or not. -/
theorem twin_closeBuilder_spied (halike : ∀ e, alike e e) (b b' : Builder) (model : EntityModel) :
    Twin alike (Over (Drafting b b' model plan? none)) (fun _ _ => Over (Held none plan? none))
      (Over (Held none plan? none)) (engine.spied.closeBuilder b)
      (engine.spied.closeBuilder b') :=
  twin_release (E := engine) (.closeBuilder b) (.closeBuilder b') rfl rfl rfl rfl halike
    twin_closeBuilder

/-- The plans are closed past the spy, whether that is made to fail or not. -/
theorem twin_closePlan_spied (halike : ∀ e, alike e e) (p p' : Plan) :
    Twin alike (Over (Held none (some (p, p')) none)) (fun _ _ => Over (Held none none none))
      (Over (Held none none none)) (engine.spied.closePlan p) (engine.spied.closePlan p') :=
  twin_release (E := engine) (.closePlan p) (.closePlan p') rfl rfl rfl rfl halike twin_closePlan

/-- A plan is made the same way in sessions of both stores, and the sessions are closed. -/
theorem twin_makePlanIn (c : Condition) (b b' : Builder) (model : EntityModel) :
    Twin (Error.Alike (2 ^ 32 < c.size))
      (Over (Held (some ⟨b.id, b'.id, model, []⟩) none none))
      (fun p p' => Over (Held none (some (p, p')) none)) (Over (Held none none none))
      (Query.makePlanIn engine.spied c b) (Query.makePlanIn engine.spied c b') := by
  refine (twin_compileIn c b b' model).attempt.bind fun compiled compiled' => ?_
  rintro s s' hcompiled
  cases hcompiled with
  | error he h =>
    -- the error of compiling is reported, however closing the session ends
    exact (twin_closeBuilder_spied .same b b' model).thenThrow he s s' h
  | @ok p p' _ _ h =>
    refine ((twin_closeBuilder_spied .same b b' model).attempt.bind fun closed closed' => ?_) s s' h
    rintro t t' hclosed
    cases hclosed with
    | ok h => exact .ok h
    | error he h =>
      -- nobody has seen the plan, so it is closed as well
      exact (twin_closePlan_spied .same p p').thenThrow he t t' h

/-- A plan is made the same way in both stores. -/
theorem twin_makePlan (e : EntityId) (c : Condition) :
    Twin (Error.Alike (2 ^ 32 < c.size)) (Over (Held none none none))
      (fun p p' => Over (Held none (some (p, p')) none)) (Over (Held none none none))
      (Query.makePlan engine.spied e c) (Query.makePlan engine.spied e c) := by
  refine (twin_use (E := engine) (.newBuilder e) (.newBuilder e) rfl rfl rfl rfl .same
    (twin_newBuilder .same e)).bind fun b b' => ?_
  rintro s s' ⟨hfaults, model, hheld⟩
  exact twin_makePlanIn c b b' model s s' ⟨hfaults, hheld⟩

/-! ## Whole calls

What is done with a plan, or with a cursor, is a parameter here: the calls of a query differ in
nothing else. -/

/-- A plan is used and closed the same way in both stores. -/
theorem twin_usePlan (e : EntityId) (c : Condition)
    {use : Plan → Action (Spied engine) α}
    (huse : ∀ p p', Twin (Error.Alike (2 ^ 32 < c.size)) (Over (Held none (some (p, p')) none))
      (Same (Over (Held none (some (p, p')) none))) (Over (Held none (some (p, p')) none)) (use p)
      (use p')) :
    Twin (Error.Alike (2 ^ 32 < c.size)) (Over (Held none none none))
      (Same (Over (Held none none none))) (Over (Held none none none))
      (Query.usePlan engine.spied e c use) (Query.usePlan engine.spied e c use) :=
  (twin_makePlan e c).bind fun p p' => (huse p p').thenRelease (twin_closePlan_spied .same p p')

theorem twin_withCursor (halike : ∀ e, alike e e) (e : EntityId) (mode : TxMode)
    {body body' : Cursor → Action (Spied engine) α}
    (hbody : ∀ k k', Twin alike (Over (Held none plan? (some (k, k'))))
      (Same (Over (Held none plan? (some (k, k'))))) (Over (Held none plan? (some (k, k'))))
      (body k) (body' k')) :
    Twin alike (Over (Held none plan? none)) (Same (Over (Held none plan? none)))
      (Over (Held none plan? none))
      (engine.spied.withCursor e mode body) (engine.spied.withCursor e mode body') := by
  refine Engine.twin_withCursor (E := engine.spied) (Q := fun _ _ => Over (Held none plan? none))
    (R := fun _ _ k k' => Over (Held none plan? (some (k, k')))) ?_ ?_ (fun _ _ => hbody) ?_ ?_
  · exact twin_use (E := engine) (.beginTx mode) (.beginTx mode) rfl rfl rfl rfl halike
      (twin_beginTx mode)
  · intro t t'
    exact twin_use (E := engine) (.openCursor t e) (.openCursor t' e) rfl rfl rfl rfl halike
      (twin_openCursor halike t t' e)
  · intro t t' k k'
    exact twin_release (E := engine) (.closeCursor k) (.closeCursor k') rfl rfl rfl rfl halike
      twin_closeCursor
  · intro t t'
    exact twin_release (E := engine) (.endTx t) (.endTx t') rfl rfl rfl rfl halike
      (twin_endTx t t')

end Memory

end EntityQuery
