import EntityQuery.Proofs.Hosting
import EntityQuery.Proofs.TwinSessions

/-!
# Two stores with the same contents

Two stores can hold the same schemas and records under the same limit, and differ in all else: in
their counters and in the handles that are open. `Memory.Held` relates such stores, and the handles
that were acquired of both for the same purpose. Each call of the engine does the same to both, and
a question has the same answer.
-/

namespace EntityQuery

open EntityQuery.Action

namespace Memory

/-- Builder sessions of two stores that hold the same. -/
structure Draft where
  id : UInt64
  id' : UInt64
  model : EntityModel
  slots : List Slot

/-- Two stores with the same contents, and the handles that are held of them: the newest builder
session, a plan and a cursor. -/
structure Held (draft? : Option Draft) (plan? : Option (Plan × Plan))
    (cursor? : Option (Cursor × Cursor)) (m m' : Memory) : Prop where
  limit : m'.limit = m.limit
  schemas : m'.schemas = m.schemas
  records : m'.records = m.records
  draft : ∀ d ∈ draft?, (∃ rest, m.sessions = ⟨d.id, d.model, d.slots⟩ :: rest) ∧
    ∃ rest, m'.sessions = ⟨d.id', d.model, d.slots⟩ :: rest
  plan : ∀ p ∈ plan?, p.1.id ∈ m.plans ∧ p.2.id ∈ m'.plans ∧ p.2.entity = p.1.entity ∧
    p.2.entityName = p.1.entityName ∧ p.2.predicate = p.1.predicate
  cursor : ∀ k ∈ cursor?, k.1.serial ∈ m.cursors ∧ k.2.serial ∈ m'.cursors ∧
    k.2.entity = k.1.entity

/-- Builder sessions of the same model are held, with whatever slots they have by now. -/
def Drafting (b b' : Builder) (model : EntityModel) (plan? : Option (Plan × Plan))
    (cursor? : Option (Cursor × Cursor)) (m m' : Memory) : Prop :=
  ∃ slots, Held (some ⟨b.id, b'.id, model, slots⟩) plan? cursor? m m'

variable {α : Type} {alike : Error → Error → Prop} {m m' : Memory} {draft? : Option Draft}
  {plan? : Option (Plan × Plan)} {cursor? : Option (Cursor × Cursor)}

/-- Schemas are looked up alike. -/
theorem Held.model_eq (h : Held draft? plan? cursor? m m') (e : EntityId) :
    m'.model e = m.model e := by
  rw [model, h.schemas, model]

theorem Held.objects_eq (h : Held draft? plan? cursor? m m') (e : EntityId) :
    m'.objects e = m.objects e := by
  rw [objects, h.records, objects]

/-! ## The calls of the engine

Each call goes the same way in both stores, and its handles are added to those that are held. What
it looks up is either a schema, which both stores have, or a handle, which is the one that is held
of each. -/

/-- Fresh sessions are opened over the same schema, or the schema is missing in both stores. -/
theorem twin_newBuilder (halike : ∀ e, alike e e) (e : EntityId) :
    Twin alike (Held none plan? cursor?)
      (fun b b' m m' => ∃ model, Held (some ⟨b.id, b'.id, model, []⟩) plan? cursor? m m')
      (Held none plan? cursor?) (engine.newBuilder e) (engine.newBuilder e) := by
  intro m m' h
  show EndAlike _ _ _ ((newBuilder e).run m) ((newBuilder e).run m')
  rw [newBuilder, run_bind, run_bind, run_ofQuestion, run_ofQuestion, h.model_eq]
  -- the schema was looked up alike, so both sessions are opened or neither is
  cases m.model e with
  | error err => exact .error (halike err) h
  | ok model =>
    refine .ok ⟨model, { h with draft := ?_ }⟩
    rintro _ ⟨⟩
    exact ⟨⟨_, rfl⟩, _, rfl⟩

/-- A call on the newest session of all runs the call in that session. -/
theorem run_onSession_newest {m : Memory} {b : Builder} {s : Session} {rest : List Session}
    (hs : m.sessions = s :: rest) (hid : s.id = b.id) (act : Action Session α) :
    (onSession b act).run m =
      ((act.run s).1, { m with sessions := (act.run s).2 :: rest }) := by
  have hfirst : m.sessions = [] ++ s :: rest := hs
  exact run_onSession hfirst (List.forall_mem_nil _) hid act

/-- A call that goes the same way in all sessions goes the same way in the sessions that the two
stores hold. -/
theorem twin_onSession {b b' : Builder} {model : EntityModel} {slots : List Slot}
    {Q : Nat → List Slot → Prop} {ran : UInt64 → Except Error ConditionId × Session}
    {act act' : Action Session ConditionId} (huniform : Session.Uniform alike model slots Q ran)
    (hact : act.run ⟨b.id, model, slots⟩ = ran b.id)
    (hact' : act'.run ⟨b'.id, model, slots⟩ = ran b'.id) :
    Twin alike (Held (some ⟨b.id, b'.id, model, slots⟩) plan? cursor?)
      (Given b.id b'.id (fun slots => Held (some ⟨b.id, b'.id, model, slots⟩) plan? cursor?) Q)
      (Held (some ⟨b.id, b'.id, model, slots⟩) plan? cursor?)
      (onSession b act) (onSession b' act') := by
  intro m m' h
  obtain ⟨⟨rest, hrest⟩, rest', hrest'⟩ := h.draft _ rfl
  rw [run_onSession_newest hrest rfl, run_onSession_newest hrest' rfl, hact, hact']
  have hdraft : ∀ slots',
      Held (some ⟨b.id, b'.id, model, slots'⟩) plan? cursor?
        { m with sessions := ⟨b.id, model, slots'⟩ :: rest }
        { m' with sessions := ⟨b'.id, model, slots'⟩ :: rest' } := by
    refine fun slots' => { h with draft := ?_ }
    rintro _ ⟨⟩
    exact ⟨⟨_, rfl⟩, _, rfl⟩
  -- the two sessions differ in their ids only, and so do the outcomes
  cases huniform with
  | error hfail hran =>
    rw [hran, hran]
    exact .error (hfail _ _) (hdraft slots)
  | ok i slots' hQ hran =>
    rw [hran, hran]
    exact .ok ⟨i, slots', hQ, rfl, rfl, hdraft slots'⟩

/-- Sessions with the same slots compile to plans of the same predicate. -/
theorem twin_compile {b b' : Builder} {model : EntityModel} :
    Twin alike (Drafting b b' model none cursor?)
      (fun p p' => Drafting b b' model (some (p, p')) cursor?) (Drafting b b' model none cursor?)
      (engine.compile b) (engine.compile b') := by
  rintro m m' ⟨slots, h⟩
  obtain ⟨⟨rest, hrest⟩, rest', hrest'⟩ := h.draft _ rfl
  rw [run_compile hrest rfl, run_compile hrest' rfl]
  -- the predicates are the same, since the slots are
  refine .ok ⟨slots, { h with plan := ?_ }⟩
  rintro _ ⟨⟩
  exact ⟨List.mem_cons_self, List.mem_cons_self, rfl, rfl, rfl⟩

/-- The newest sessions are closed in both stores. -/
theorem twin_closeBuilder {b b' : Builder} {model : EntityModel} :
    Twin alike (Drafting b b' model plan? cursor?) (fun _ _ => Held none plan? cursor?)
      (Held none plan? cursor?) (engine.closeBuilder b) (engine.closeBuilder b') := by
  rintro m m' ⟨slots, h⟩
  obtain ⟨⟨rest, hrest⟩, rest', hrest'⟩ := h.draft _ rfl
  rw [run_closeBuilder hrest rfl, run_closeBuilder hrest' rfl]
  exact .ok { h with draft := nofun }

theorem run_closePlan {m : Memory} {p : Plan} (h : p.id ∈ m.plans) :
    (engine.closePlan p).run m = (.ok (), { m with plans := m.plans.erase p.id }) := by
  show (closePlan p).run m = _
  simp [closePlan, run_giveBack, h]

/-- The plans that are held are open, so they are closed in both stores. -/
theorem twin_closePlan {p p' : Plan} :
    Twin alike (Held draft? (some (p, p')) cursor?) (fun _ _ => Held draft? none cursor?)
      (Held draft? none cursor?) (engine.closePlan p) (engine.closePlan p') := by
  intro m m' h
  obtain ⟨hp, hp', -⟩ := h.plan _ rfl
  rw [run_closePlan hp, run_closePlan hp']
  exact .ok { h with plan := nofun }

theorem twin_beginTx (mode : TxMode) :
    Twin alike (Held draft? plan? cursor?) (fun _ _ => Held draft? plan? cursor?)
      (Held draft? plan? cursor?) (engine.beginTx mode) (engine.beginTx mode) :=
  fun _ _ h => .ok { h with }

theorem twin_endTx (t t' : Tx) :
    Twin alike (Held draft? plan? cursor?) (fun _ _ => Held draft? plan? cursor?)
      (Held draft? plan? cursor?) (engine.endTx t) (engine.endTx t') :=
  fun _ _ h => .ok h

/-- Cursors are opened over the same schema, or the schema is missing in both stores. -/
theorem twin_openCursor (halike : ∀ e, alike e e) (t t' : Tx) (e : EntityId) :
    Twin alike (Held draft? plan? none) (fun k k' => Held draft? plan? (some (k, k')))
      (Held draft? plan? none) (engine.openCursor t e) (engine.openCursor t' e) := by
  intro m m' h
  show EndAlike _ _ _ ((openCursor t e).run m) ((openCursor t' e).run m')
  rw [openCursor, openCursor, run_bind, run_bind, run_ofQuestion, run_ofQuestion, h.model_eq]
  cases m.model e with
  | error err => exact .error (halike err) h
  | ok model =>
    refine .ok { h with cursor := ?_ }
    rintro _ ⟨⟩
    exact ⟨List.mem_cons_self, List.mem_cons_self, rfl⟩

theorem run_closeCursor {m : Memory} {k : Cursor} (h : k.serial ∈ m.cursors) :
    (engine.closeCursor k).run m = (.ok (), { m with cursors := m.cursors.erase k.serial }) := by
  show (closeCursor k).run m = _
  simp [closeCursor, run_giveBack, h]

/-- The cursors that are held are open, so they are closed in both stores. -/
theorem twin_closeCursor {k k' : Cursor} :
    Twin alike (Held draft? plan? (some (k, k'))) (fun _ _ => Held draft? plan? none)
      (Held draft? plan? none) (engine.closeCursor k) (engine.closeCursor k') := by
  intro m m' h
  obtain ⟨hk, hk', -⟩ := h.cursor _ rfl
  rw [run_closeCursor hk, run_closeCursor hk']
  exact .ok { h with cursor := nofun }

/-! ## Questions

A question reads the entity and the predicate of its plan, the entity of its cursor, and the records
and the limit of the store. All of these are the same on both sides; the ids of the handles are not
read. -/

/-- A question that has the same answer in related stores has twins for answers. -/
theorem twin_question (halike : ∀ e, alike e e) {H : Memory → Memory → Prop}
    {question question' : Memory → Except Error α}
    (h : ∀ m m', H m m' → question' m' = question m) :
    Twin alike H (Same H) H (.ofQuestion question) (.ofQuestion question') := by
  intro m m' hm
  rw [run_ofQuestion, run_ofQuestion, h m m' hm]
  exact .same halike _ hm

section

variable {p p' : Plan} {k k' : Cursor} (h : Held draft? (some (p, p')) (some (k, k')) m m')

include h

theorem Held.matching_eq : m'.matching p' k' = m.matching p k := by
  obtain ⟨-, -, hentity, -, hpredicate⟩ := h.plan _ rfl
  obtain ⟨-, -, hk⟩ := h.cursor _ rfl
  -- what is read of the handles is the entity and the predicate
  simp only at hentity hpredicate hk
  rw [matching, matching, hentity, hpredicate, hk, h.objects_eq]

/-- The same records are found, or the limit is exceeded in both stores. -/
theorem Held.find_eq : m'.find p' k' = m.find p k := by
  rw [find, find, h.matching_eq, h.limit]

theorem Held.findIds_eq : m'.findIds p' k' = m.findIds p k := by
  rw [findIds, findIds, h.matching_eq]

theorem Held.count_eq : m'.count p' k' = m.count p k := by
  rw [count, count, h.matching_eq]

end

/-- Plans of the same entity and predicate are described alike. -/
theorem Held.describe_eq {p p' : Plan} (h : Held draft? (some (p, p')) cursor? m m') :
    describe p' = describe p := by
  obtain ⟨-, -, hentity, hname, hpredicate⟩ := h.plan _ rfl
  simp only at hentity hname hpredicate
  unfold describe
  rw [hentity, hname, hpredicate]

end Memory

end EntityQuery
