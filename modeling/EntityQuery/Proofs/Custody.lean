import EntityQuery.Memory
import EntityQuery.Proofs.FirstFailure
import EntityQuery.Proofs.Hosting
import Mathlib.Data.Multiset.Filter

/-!
# Handles in custody

The memory store counts what it has given out and not got back. Under observation, what it counts as
open are at any time the handles that its callers hold (`Custody`), whichever calls are made to
fail. The caller of a call has to hold the handles that it uses or gives back; this is all that is
asked.

* `Memory.Agrees.perform` and `Memory.Agrees.release` say so of what the store itself counts.
* `Custody.call` and `Custody.give` are the two ways in which custody changes.
* `Custody.obeys` says that a piece of work that goes by the law changes nothing in the end.
-/

namespace EntityQuery

namespace Memory

/-! ## What the store counts as open

The store lists the ids of its open builder sessions, plans and cursors; it does not list
transactions. So what it counts agrees with the handles that are held if each of the three lists has
the ids of the handles of its kind. A call adds to one list what it gives out, and a release takes
away what it is given. -/

/-- No call of a session gives it another id. -/
theorem map_id_callFirst {α : Type} {act : Action Session α} (hact : Session.Framed act) (id : UInt64)
    (sessions : List Session) :
    (callFirst id act sessions).2.map (·.id) = sessions.map (·.id) := by
  induction sessions with
  | nil => rfl
  | cons s rest ih =>
    rw [callFirst]
    split
    · exact congrArg (· :: _) (hact s).1
    · exact congrArg (s.id :: ·) ih

/-- What is one element and a rest, as a list, loses that element to `erase`. -/
theorem mem_and_coe_erase {β : Type} [DecidableEq β] {l : List β} {b : β} {rest : Multiset β}
    (h : (l : Multiset β) = b ::ₘ rest) : b ∈ l ∧ (l.erase b : Multiset β) = rest := by
  constructor
  · exact Multiset.mem_coe.mp (h ▸ Multiset.mem_cons_self b rest)
  · rw [← Multiset.coe_erase, h, Multiset.erase_cons_head]

/-- The id that a builder session is listed under. -/
def builderId? : Handle engine → Option UInt64
  | .builder b => some b.id
  | .plan _ | .tx _ | .cursor _ => none

/-- The id that a plan is listed under. -/
def planId? : Handle engine → Option UInt64
  | .plan p => some p.id
  | .builder _ | .tx _ | .cursor _ => none

/-- The serial that a cursor is listed under. -/
def cursorSerial? : Handle engine → Option Nat
  | .cursor k => some k.serial
  | .builder _ | .plan _ | .tx _ => none

/-- The store counts as open what is held. -/
@[mk_iff]
structure Agrees (m : Memory) (held : Multiset (Handle engine)) : Prop where
  sessions : (m.sessions.map (·.id) : Multiset UInt64) = held.filterMap builderId?
  plans : (m.plans : Multiset UInt64) = held.filterMap planId?
  cursors : (m.cursors : Multiset Nat) = held.filterMap cursorSerial?

namespace Agrees

variable {m m' : Memory} {held : Multiset (Handle engine)}

/-- With one more builder session held, its id is one more that is listed. -/
theorem builder_iff {b : Builder} :
    m.Agrees (.builder b ::ₘ held) ↔
      (m.sessions.map (·.id) : Multiset UInt64) = b.id ::ₘ held.filterMap builderId? ∧
        (m.plans : Multiset UInt64) = held.filterMap planId? ∧
        (m.cursors : Multiset Nat) = held.filterMap cursorSerial? := by
  simp [agrees_iff, Multiset.filterMap_cons, builderId?, planId?, cursorSerial?]

theorem plan_iff {p : Plan} :
    m.Agrees (.plan p ::ₘ held) ↔
      (m.sessions.map (·.id) : Multiset UInt64) = held.filterMap builderId? ∧
        (m.plans : Multiset UInt64) = p.id ::ₘ held.filterMap planId? ∧
        (m.cursors : Multiset Nat) = held.filterMap cursorSerial? := by
  simp [agrees_iff, Multiset.filterMap_cons, builderId?, planId?, cursorSerial?]

theorem tx_iff {t : Tx} : m.Agrees (.tx t ::ₘ held) ↔ m.Agrees held := by
  simp [agrees_iff, Multiset.filterMap_cons, builderId?, planId?, cursorSerial?]

/-- With one more cursor held, its serial is one more that is listed. -/
theorem cursor_iff {k : Cursor} :
    m.Agrees (.cursor k ::ₘ held) ↔
      (m.sessions.map (·.id) : Multiset UInt64) = held.filterMap builderId? ∧
        (m.plans : Multiset UInt64) = held.filterMap planId? ∧
        (m.cursors : Multiset Nat) = k.serial ::ₘ held.filterMap cursorSerial? := by
  simp [agrees_iff, Multiset.filterMap_cons, builderId?, planId?, cursorSerial?]

/-! ### Calls that give nothing back

Such a call asks first and then changes, so it opens something exactly if it is answered. The calls
of a session change the session alone, and a session keeps its id. -/

/-- A call that asks and then changes opens nothing if it is refused. -/
theorem ofAsked {β : Type} {c : Call engine} {question : Memory → Except Error β}
    {change : β → Memory → c.Result × Memory} (h : m.Agrees held)
    (hc : c.perform = (.ofQuestion question >>= fun b => modifyGet (change b)))
    (hchange : ∀ b, (change b m).2.Agrees (c.acquired (change b m).1 + held)) :
    (c.perform.run m).2.Agrees (Event.acquired ⟨c, (c.perform.run m).1⟩ + held) := by
  rw [hc, Action.run_bind, Action.run_ofQuestion]
  cases question m with
  | error e => simpa [Event.acquired] using h
  | ok b => exact hchange b

/-- A call of a session opens and closes nothing, whatever it does to the session. -/
theorem onSession {α : Type} {act : Action Session α} (h : m.Agrees held)
    (hact : Session.Framed act) (b : Builder) : ((onSession b act).run m).2.Agrees held := by
  refine ⟨?_, h.plans, h.cursors⟩
  show (((callFirst b.id act m.sessions).2.map (·.id) : List UInt64) : Multiset UInt64) = _
  rw [map_id_callFirst hact, h.sessions]

/-- A call that neither opens nor closes agrees with what is held already. -/
theorem ofNone {c : Call engine} (h : m.Agrees held) (hnone : ∀ a, c.acquired a = [])
    (outcome : Except Error c.Result) : m.Agrees (Event.acquired ⟨c, outcome⟩ + held) := by
  cases outcome <;> simpa [Event.acquired, hnone] using h

/-- A call that gives nothing back opens what it gives out, and nothing if it fails. -/
theorem perform (h : m.Agrees held) (c : Call engine) (hc : c.released? = none) :
    (c.perform.run m).2.Agrees (Event.acquired ⟨c, (c.perform.run m).1⟩ + held) := by
  cases c with
  | newBuilder e =>
    refine h.ofAsked rfl fun model => ?_
    exact builder_iff.mpr ⟨congrArg (m.nextBuilder ::ₘ ·) h.sessions, h.plans, h.cursors⟩
  | register b p => exact (h.onSession (Session.framed_register p) b).ofNone (fun _ => rfl) _
  | combine b j ids =>
    exact (h.onSession (Session.framed_combine j ids) b).ofNone (fun _ => rfl) _
  | compile b =>
    refine h.ofAsked rfl fun s => ?_
    exact plan_iff.mpr ⟨h.sessions, congrArg (m.nextPlan ::ₘ ·) h.plans, h.cursors⟩
  | find | findIds | count | describe => exact h.ofNone (fun _ => rfl) _
  | beginTx mode =>
    -- the store does not count transactions
    exact tx_iff.mpr ⟨h.sessions, h.plans, h.cursors⟩
  | openCursor t e =>
    refine h.ofAsked rfl fun model => ?_
    exact cursor_iff.mpr ⟨h.sessions, h.plans, congrArg (m.nextCursor ::ₘ ·) h.cursors⟩
  | closeBuilder | closePlan | endTx | closeCursor => cases hc

/-! ### Giving handles back

The handle is taken off the list of its kind. A handle that is held is on it, so giving it back
cannot fail. -/

/-- A handle that is held is open, and giving it back closes it. -/
theorem release {x : Handle engine} (h : m.Agrees (x ::ₘ held)) :
    failure? (x.release.perform.run m).1 = none ∧ (x.release.perform.run m).2.Agrees held := by
  cases x with
  | builder b =>
    obtain ⟨hsessions, hplans, hcursors⟩ := builder_iff.mp h
    obtain ⟨hmem, hrest⟩ := mem_and_coe_erase hsessions
    have hopen : m.sessions.any (·.id == b.id) = true := by
      simpa using hmem
    have hrun : (engine.closeBuilder b).run m =
        (.ok (), { m with sessions := m.sessions.eraseP (·.id == b.id) }) := by
      simp only [closeBuilder, run_giveBack, hopen, if_true]
    -- dropping the first session of an id drops one id
    have hleft : (m.sessions.eraseP (·.id == b.id)).map (·.id) =
        (m.sessions.map (·.id)).erase b.id := by
      rw [List.erase_eq_eraseP', List.eraseP_map]
      rfl
    simp only [Handle.release, Call.perform, hrun]
    refine ⟨rfl, ?_, hplans, hcursors⟩
    rw [hleft, hrest]
  | plan p =>
    obtain ⟨hsessions, hplans, hcursors⟩ := plan_iff.mp h
    obtain ⟨hmem, hrest⟩ := mem_and_coe_erase hplans
    have hopen : m.plans.contains p.id = true := by
      simpa using hmem
    have hrun : (engine.closePlan p).run m = (.ok (), { m with plans := m.plans.erase p.id }) := by
      simp only [closePlan, run_giveBack, hopen, if_true]
    simp only [Handle.release, Call.perform, hrun]
    exact ⟨rfl, hsessions, hrest, hcursors⟩
  | tx t => exact ⟨rfl, tx_iff.mp h⟩
  | cursor k =>
    obtain ⟨hsessions, hplans, hcursors⟩ := cursor_iff.mp h
    obtain ⟨hmem, hrest⟩ := mem_and_coe_erase hcursors
    have hopen : m.cursors.contains k.serial = true := by
      simpa using hmem
    have hrun : (engine.closeCursor k).run m =
        (.ok (), { m with cursors := m.cursors.erase k.serial }) := by
      simp only [closeCursor, run_giveBack, hopen, if_true]
    simp only [Handle.release, Call.perform, hrun]
    exact ⟨rfl, hsessions, hplans, hrest⟩

end Agrees

end Memory

/-! ## Custody

Under observation there are two accounts: what the store counts as open, and what the calls that
were made gave out and did not get back. Custody ties both to the same handles, and says that a
release only ever failed because it was made to. -/

/-- A handle among others, as a collection without order, is that handle and the others. -/
theorem coe_middle {β : Type} (x : β) (newer older : List β) :
    ((newer ++ x :: older : List β) : Multiset β) = x ::ₘ ↑(newer ++ older) :=
  Multiset.coe_eq_coe.mpr List.perm_middle

/-- A call that gives back a handle fails only if it is made to. It would also fail if the handle
were not open. -/
def Event.FindsOpen {σ : Type} {E : Engine σ} (ev : Event E) : Prop :=
  ev.call.isRelease = true → ∀ e, ev.outcome = .error e → e = ev.call.injected

/-- The handles that are held are those that were given out and not given back, in what the store
counts and by the calls that were made. -/
structure Custody (held : Multiset (Handle Memory.engine)) (s : Spied Memory.engine) : Prop where
  agrees : s.inner.Agrees held
  accounts : ∃ order : List (Handle Memory.engine), order = held ∧ Accounts [] s.events order
  findsOpen : ∀ ev ∈ s.events, ev.FindsOpen

namespace Custody

variable {α : Type} {held : Multiset (Handle Memory.engine)} {s s' : Spied Memory.engine}

/-- A call takes into custody what it gives out. -/
theorem call (h : Custody held s) {c : Call Memory.engine} (hc : c.released? = none)
    (huses : ∀ x ∈ c.uses, x ∈ held) :
    Custody (Event.acquired ⟨c, ((Spied.call c).run s).1⟩ + held) ((Spied.call c).run s).2 := by
  rw [Spied.run_call]
  refine ⟨?_, ?_, ?_⟩
  · simp only [Spied.outcomeOf_use hc]
    split
    · -- the call was made to fail, and did not reach the store
      simpa [Event.acquired] using h.agrees
    · exact h.agrees.perform c hc
  · obtain ⟨order, rfl, haccounts⟩ := h.accounts
    exact ⟨_, Multiset.coe_add _ _, haccounts.append (.single (.use hc huses))⟩
  · refine List.forall_mem_append.mpr ⟨h.findsOpen, ?_⟩
    refine List.forall_mem_singleton.mpr fun hrelease => ?_
    rw [Call.isRelease_eq, hc] at hrelease
    cases hrelease

/-- A handle leaves custody when it is given back, whether that fails or not. -/
theorem give {x : Handle Memory.engine} (h : Custody (x ::ₘ held) s) :
    Custody held ((Spied.call x.release).run s).2 := by
  obtain ⟨hfine, hagrees⟩ := h.agrees.release
  rw [Spied.run_call, Spied.outcomeOf_release]
  refine ⟨hagrees, ?_, ?_⟩
  · obtain ⟨order, horder, haccounts⟩ := h.accounts
    have hmem : x ∈ order := Multiset.mem_coe.mp (horder ▸ Multiset.mem_cons_self x held)
    obtain ⟨newer, older, rfl⟩ := List.append_of_mem hmem
    have hleft : ((newer ++ older : List (Handle Memory.engine)) : Multiset _) = held :=
      (Multiset.cons_inj_right x).mp ((coe_middle x newer older).symm.trans horder)
    exact ⟨_, hleft, haccounts.append (.single (.release (Call.released?_release x)))⟩
  · refine List.forall_mem_append.mpr ⟨h.findsOpen, List.forall_mem_singleton.mpr fun _ e he => ?_⟩
    dsimp only at he
    split at he
    · exact (Except.error.inj he).symm
    · rw [he] at hfine
      cases hfine

/-- Calls that account for the handles between two moments. -/
theorem follow {evs : List (Event Memory.engine)} {order order' : List (Handle Memory.engine)}
    (h : Custody order s) (hfollows : Follows s evs s') (haccounts : Accounts order evs order') :
    Custody order' s' := by
  -- the accounts move call by call, and so does the journal
  induction hfollows generalizing order with
  | refl =>
    cases haccounts
    exact h
  | call c _ ih =>
    obtain _ | ⟨hmoves, hrest⟩ := haccounts
    refine ih ?_ hrest
    cases hmoves with
    | @release x newer older hcall =>
      obtain rfl : c = x.release := Call.eq_release_of_released? hcall
      exact give (coe_middle x newer older ▸ h)
    | use hcall huses =>
      rw [← Multiset.coe_add]
      exact h.call hcall huses

/-- Work that goes by the law and ends with the handles that it started with. -/
theorem obeys {decode : Bytes → Except Error α} {β : Type} {planned : List Task}
    {act : Action (Spied Memory.engine) β}
    (hact : ∀ (order : List (Handle Memory.engine)) (s : Spied Memory.engine), order = held →
      (Telling.narrated decode).Obeys order order planned (fun _ => order) act s) :
    act.Leads (Custody held) (Custody held) := by
  intro s h
  obtain ⟨order, rfl, -⟩ := h.accounts
  obtain ⟨_, ⟨evs, hfollows, rfl⟩, hlaw⟩ := hact order s rfl
  have haccounts : Accounts order evs order := by
    have hcalls := hlaw.accounts
    rw [calls_narrate] at hcalls
    cases houtcome : (act.run s).1 <;> rwa [houtcome] at hcalls
  exact h.follow hfollows haccounts

/-! ### As pre- and postconditions -/

/-- A call takes into custody what it answers with. -/
theorem acquires {c : Call Memory.engine} (hc : c.released? = none)
    (huses : ∀ x ∈ c.uses, x ∈ held) :
    (Spied.call c).Acquires (Custody held) fun a => Custody (c.acquired a + held) := by
  intro s h
  have hcall := h.call hc huses
  generalize (Spied.call c).run s = r at hcall ⊢
  rcases r with ⟨e | a, s'⟩
  · simpa [Event.acquired] using hcall
  · exact hcall

/-- A call that gives nothing out leaves custody as it was. -/
theorem leads {c : Call Memory.engine} (hc : c.released? = none) (huses : ∀ x ∈ c.uses, x ∈ held)
    (hnone : ∀ a, c.acquired a = []) : (Spied.call c).Leads (Custody held) (Custody held) := by
  intro s h
  have hcall := h.call hc huses
  have hnew : Event.acquired ⟨c, ((Spied.call c).run s).1⟩ = [] := by
    rw [Event.acquired]
    split
    · exact hnone _
    · rfl
  rwa [hnew, Multiset.coe_nil, Multiset.zero_add] at hcall

/-! ### The calls of the engine -/

section

open Memory

variable {b : Builder} {p : Plan} {t : Tx} {k : Cursor}

/-- Opening a builder session takes it into custody. -/
theorem newBuilder (e : EntityId) :
    (engine.spied.newBuilder e).Acquires (Custody held) fun b => Custody (.builder b ::ₘ held) :=
  acquires (c := .newBuilder e) rfl (List.forall_mem_nil _)

theorem register (p : Primitive) (hb : .builder b ∈ held) :
    ((engine.spied.registrar b).register p).Leads (Custody held) (Custody held) :=
  leads (c := .register b p) rfl (List.forall_mem_singleton.mpr hb) fun _ => rfl

theorem combine (j : Junction) (ids : List ConditionId) (hb : .builder b ∈ held) :
    ((engine.spied.registrar b).combine j ids).Leads (Custody held) (Custody held) :=
  leads (c := .combine b j ids) rfl (List.forall_mem_singleton.mpr hb) fun _ => rfl

theorem compile (hb : .builder b ∈ held) :
    (engine.spied.compile b).Acquires (Custody held) fun p => Custody (.plan p ::ₘ held) :=
  acquires (c := .compile b) rfl (List.forall_mem_singleton.mpr hb)

theorem find (hp : .plan p ∈ held) (hk : .cursor k ∈ held) :
    (engine.spied.find p k).Leads (Custody held) (Custody held) :=
  leads (c := .find p k) rfl (by simp [Call.uses, hp, hk]) fun _ => rfl

theorem findIds (hp : .plan p ∈ held) (hk : .cursor k ∈ held) :
    (engine.spied.findIds p k).Leads (Custody held) (Custody held) :=
  leads (c := .findIds p k) rfl (by simp [Call.uses, hp, hk]) fun _ => rfl

theorem count (hp : .plan p ∈ held) (hk : .cursor k ∈ held) :
    (engine.spied.count p k).Leads (Custody held) (Custody held) :=
  leads (c := .count p k) rfl (by simp [Call.uses, hp, hk]) fun _ => rfl

theorem describe (hp : .plan p ∈ held) :
    (engine.spied.describe p).Leads (Custody held) (Custody held) :=
  leads (c := .describe p) rfl (List.forall_mem_singleton.mpr hp) fun _ => rfl

/-- Beginning a transaction takes it into custody. -/
theorem beginTx (mode : TxMode) :
    (engine.spied.beginTx mode).Acquires (Custody held) fun t => Custody (.tx t ::ₘ held) :=
  acquires (c := .beginTx mode) rfl (List.forall_mem_nil _)

theorem openCursor (e : EntityId) (ht : .tx t ∈ held) :
    (engine.spied.openCursor t e).Acquires (Custody held) fun k => Custody (.cursor k ::ₘ held) :=
  acquires (c := .openCursor t e) rfl (List.forall_mem_singleton.mpr ht)

end

/-- Work with a cursor ends with the handles that it started with if what is done with the cursor
does. -/
theorem withCursor {e : EntityId} {mode : TxMode}
    {body : Memory.Cursor → Action (Spied Memory.engine) α}
    (hbody : ∀ t k, (body k).Leads (Custody (.cursor k ::ₘ .tx t ::ₘ held))
      (Custody (.cursor k ::ₘ .tx t ::ₘ held))) :
    (Memory.engine.spied.withCursor e mode body).Leads (Custody held) (Custody held) :=
  Engine.withCursor_leads (beginTx mode)
    (fun t => openCursor e (Multiset.mem_cons_self (.tx (E := Memory.engine) t) held)) hbody
    (fun _ _ _ h => h.give) (fun _ _ h => h.give)

/-! ### The calls of a query

The calls of a query go by the law, so they give back all that they took: the handles in custody are
the same before and after. -/

theorem registerIn {b : Memory.Builder} (c : Condition) (hb : .builder b ∈ held) :
    (c.registerIn (Memory.engine.spied.registrar b)).Leads (Custody held) (Custody held) :=
  obeys fun _ s horder => c.obeys_registerIn (T := .narrated Record.decode)
    (Multiset.mem_coe.mp (horder ▸ hb)) s

/-- Finding and decoding with a plan and a cursor. -/
theorem useFind (decode : Bytes → Except Error α) (e : EntityId) (c : Condition) :
    (Query.usePlan Memory.engine.spied e c fun p =>
        Memory.engine.spied.withCursor e .readOnly fun k => do
          let records ← Memory.engine.spied.find p k
          records.mapM fun bytes => MonadExcept.ofExcept (decode bytes)).Leads
      (Custody held) (Custody held) :=
  obeys fun order s _ => Query.obeys_useFind decode order e c s

theorem useFindIds (e : EntityId) (c : Condition) :
    (Query.usePlan Memory.engine.spied e c fun p =>
        Memory.engine.spied.withCursor e .readOnly (Memory.engine.spied.findIds p)).Leads
      (Custody held) (Custody held) :=
  obeys fun order s _ => Query.obeys_useFindIds Record.decode order e c s

theorem useCount (e : EntityId) (c : Condition) :
    (Query.usePlan Memory.engine.spied e c fun p =>
        Memory.engine.spied.withCursor e .readOnly (Memory.engine.spied.count p)).Leads
      (Custody held) (Custody held) :=
  obeys fun order s _ => Query.obeys_useCount Record.decode order e c s

theorem useDescribe (e : EntityId) (c : Condition) :
    (Query.usePlan Memory.engine.spied e c Memory.engine.spied.describe).Leads
      (Custody held) (Custody held) :=
  obeys fun order s _ => Query.obeys_useDescribe Record.decode order e c s

end Custody

end EntityQuery
