import EntityQuery.Proofs.History
import EntityQuery.Proofs.Hosting

/-!
# Builder sessions neither lose nor duplicate conditions

A builder session of the memory store is called any number of times, and each call may go through or
fail. Whenever it is compiled, the plan holds the conjunction of the conditions that no combination
has taken, in the order of their registration, and every comparison that was registered is in it
exactly once (`Memory.compile_traced`).
-/

namespace EntityQuery

/-- A call of a session that registers, combines or compiles. -/
inductive SessionCall where
  | register (p : Primitive)
  | combine (j : Junction) (ids : List ConditionId)
  | compile

/-- A store, and the registrations that went through in one of its sessions so far. -/
structure Traced where
  store : Memory
  log : Log

namespace Traced

/-- The registration, if it went through, with the id that it was answered with. -/
def record (t : Traced) (entry : ConditionId → Registered) :
    Except Error ConditionId × Memory → Traced
  | (.ok id, m) => ⟨m, t.log ++ [entry id]⟩
  | (.error _, m) => ⟨m, t.log⟩

/-- What a call of the session does to the store, and what it registers. -/
def call (b : Memory.Builder) (t : Traced) : SessionCall → Traced
  | .register p =>
    t.record (.leaf · p.comparison) (((Memory.engine.registrar b).register p).run t.store)
  | .combine j ids =>
    t.record (.node · j ids) (((Memory.engine.registrar b).combine j ids).run t.store)
  | .compile => ⟨((Memory.engine.compile b).run t.store).2, t.log⟩

/-- The state after some calls of the session. -/
def calls (b : Memory.Builder) (t : Traced) (cs : List SessionCall) : Traced :=
  cs.foldl (call b) t

/-- The session is the newest one in the store, and holds what the log says. -/
def Tracks (t : Traced) (b : Memory.Builder) (model : EntityModel) (others : List Session) : Prop :=
  ∃ s : Session, t.store.sessions = s :: others ∧ s.id = b.id ∧ s.model = model ∧ s.Mirrors t.log

variable {t : Traced} {b : Memory.Builder} {model : EntityModel} {others : List Session}

/-- A call enters one registration or none. -/
theorem length_le_record (entry : ConditionId → Registered)
    (r : Except Error ConditionId × Memory) : t.log.length ≤ (t.record entry r).log.length := by
  rcases r with ⟨_ | _, _⟩ <;> simp [record]

theorem length_le_call (c : SessionCall) : t.log.length ≤ (t.call b c).log.length := by
  cases c with
  | register | combine => exact length_le_record _ _
  | compile => exact Nat.le_refl _

theorem length_le_calls (cs : List SessionCall) : t.log.length ≤ (t.calls b cs).log.length := by
  induction cs generalizing t with
  | nil => exact Nat.le_refl _
  | cons c rest ih => exact Nat.le_trans (length_le_call c) ih

/-- A call that goes through keeps the session tracked if the session that it leaves mirrors the
longer log. A call that fails leaves the session as it was. -/
theorem tracks_record {s : Session} {entry : ConditionId → Registered}
    {act : Action Session ConditionId} (hid : s.id = b.id) (hmodel : s.model = model)
    (hmirrors : s.Mirrors t.log)
    (hroom : (t.record entry (Session.hosted (fun s => { t.store with sessions := s :: others })
      (act.run s))).log.length ≤ 2 ^ 32)
    (hatomic : act.Atomic) (hframed : Session.Framed act)
    (hstep : ∀ {c s'}, s.slots.length < 2 ^ 32 → act.run s = (.ok c, s') →
      s'.Mirrors (t.log ++ [entry c])) :
    (t.record entry (Session.hosted (fun s => { t.store with sessions := s :: others })
      (act.run s))).Tracks b model others := by
  have hkept := hatomic s
  obtain ⟨hid', hmodel'⟩ := hframed s
  generalize act.run s = ran at *
  obtain ⟨e | c, s'⟩ := ran
  · -- neither the session nor the log has changed
    obtain rfl : s' = s := hkept e rfl
    exact ⟨s', rfl, hid, hmodel, hmirrors⟩
  · have hlength : t.log.length + 1 ≤ 2 ^ 32 := by
      simpa [record, Session.hosted] using hroom
    have hslots : s.slots.length < 2 ^ 32 := by
      rw [← hmirrors.length_eq]
      omega
    exact ⟨s', rfl, hid'.trans hid, hmodel'.trans hmodel, hstep hslots rfl⟩

/-- Every call keeps the session tracked while there is room. -/
theorem Tracks.call (h : t.Tracks b model others) (c : SessionCall)
    (hroom : (t.call b c).log.length ≤ 2 ^ 32) : (t.call b c).Tracks b model others := by
  obtain ⟨s, hs, hid, hmodel, hmirrors⟩ := h
  have hhosts := Memory.hosts_registrar t.store b [] others (by simp)
  have hstore : { t.store with sessions := s :: others } = t.store := by
    rw [← hs]
  cases c with
  | register p =>
    have hrun : ((Memory.engine.registrar b).register p).run t.store = Session.hosted
        (fun s => { t.store with sessions := s :: others }) ((Session.register p).run s) :=
      hstore ▸ hhosts.register s hid p
    rw [Traced.call, hrun] at hroom ⊢
    exact tracks_record hid hmodel hmirrors hroom (Session.atomic_register p)
      (Session.framed_register p) hmirrors.register
  | combine j ids =>
    have hrun : ((Memory.engine.registrar b).combine j ids).run t.store = Session.hosted
        (fun s => { t.store with sessions := s :: others }) ((Session.combine j ids).run s) :=
      hstore ▸ hhosts.combine s hid j ids
    rw [Traced.call, hrun] at hroom ⊢
    exact tracks_record hid hmodel hmirrors hroom (Session.atomic_combine j ids)
      (Session.framed_combine j ids) hmirrors.combine
  | compile =>
    -- compiling reads the session, so it may come between registrations
    rw [Traced.call, Memory.run_compile hs hid]
    exact ⟨s, hs, hid, hmodel, hmirrors⟩

/-- Calls in a row keep the session tracked while there is room. -/
theorem Tracks.calls (h : t.Tracks b model others) (cs : List SessionCall)
    (hroom : (t.calls b cs).log.length ≤ 2 ^ 32) : (t.calls b cs).Tracks b model others := by
  induction cs generalizing t with
  | nil => exact h
  | cons c rest ih =>
    -- the log only grows, so there is room for the first call if there is for all
    have hfirst : (t.call b c).log.length ≤ 2 ^ 32 := Nat.le_trans (length_le_calls rest) hroom
    exact ih (h.call c hfirst) hroom

end Traced

namespace Memory

/-- Whatever was called in a session that an engine opened, and whichever of it failed, compiling
the session conjoins the trees of the conditions that were not taken, in the order of their
registration: an empty conjunction if there is none, the only one as it is, and otherwise their
conjunction. Each comparison that was registered is in the plan once, and nothing else is. -/
theorem compile_traced {m₀ m : Memory} {e : EntityId} {b : Builder} {model : EntityModel}
    (hopen : (engine.newBuilder e).run m₀ = (.ok b, m)) (hmodel : m₀.model e = .ok model)
    (cs : List SessionCall) {t : Traced} (ht : Traced.calls b ⟨m, []⟩ cs = t)
    (hroom : t.log.length < 2 ^ 32) :
    ∃ plan m' ps, (engine.compile b).run t.store = (.ok plan, m') ∧
      List.Forall₂ (t.log.Built model) t.log.standing ps ∧
      (ps = [] → plan.predicate = .join .all []) ∧ (∀ p, ps = [p] → plan.predicate = p) ∧
      (2 ≤ ps.length → plan.predicate = .join .all ps) ∧ (t.log.map (·.id)).Nodup ∧
      plan.predicate.leaves.Perm (t.log.filterMap (·.leaf? model)) := by
  obtain ⟨hb, rfl⟩ := Prod.mk.inj (hopen.symm.trans (run_newBuilder hmodel))
  obtain rfl := Except.ok.inj hb
  -- a session that was just opened mirrors the empty log
  have hstart : Traced.Tracks ⟨m₀.opened (.new m₀.nextBuilder model), []⟩ ⟨m₀.nextBuilder, model.id⟩
      model m₀.sessions :=
    ⟨.new m₀.nextBuilder model, rfl, rfl, rfl, .new _ _⟩
  subst ht
  obtain ⟨s, hs, hid, rfl, hmirrors⟩ := hstart.calls cs (Nat.le_of_lt hroom)
  have hlength : s.slots.length ≤ 2 ^ 32 := by
    rw [← hmirrors.length_eq]
    exact Nat.le_of_lt hroom
  refine ⟨_, _, s.untaken, run_compile hs hid, hmirrors.untaken, ?_, ?_, ?_,
    hmirrors.nodup_ids hlength, ?_⟩
  · intro hnone
    show Predicate.conjoin s.untaken = _
    rw [hnone, Predicate.conjoin]
    simp
  · intro p hone
    show Predicate.conjoin s.untaken = _
    rw [hone, Predicate.conjoin]
  · exact fun hseveral => Predicate.conjoin_of_two_le hseveral
  · -- a conjunction has the comparisons of what it conjoins
    show (Predicate.conjoin s.untaken).leaves.Perm _
    rw [Predicate.leaves_conjoin]
    exact hmirrors.leaves

/-- Of five calls two fail; the plan holds the other comparisons, one of them inside a junction. -/
theorem compile_traced_people :
    let people : EntityModel := (EntityModel.new ⟨7⟩ "Person").declare ⟨3⟩ "age" (.integer .uint8)
    let calls : List SessionCall := [.register (.intGreater ⟨3⟩ 40), .register (.notNull ⟨9⟩),
      .combine .any [⟨1, 0⟩, ⟨1, 0⟩], .combine .any [⟨1, 0⟩], .compile, .register (.notNull ⟨3⟩)]
    let t := Traced.calls ⟨1, ⟨7⟩⟩
      ⟨((engine.newBuilder ⟨7⟩).run ((Memory.new none).register people)).2, []⟩ calls
    let older : Predicate := .compare ⟨3⟩ "age" (.int .gt 40)
    let known : Predicate := .compare ⟨3⟩ "age" (.null true)
    ∃ plan m', (engine.compile ⟨1, ⟨7⟩⟩).run t.store = (.ok plan, m') ∧
      plan.predicate = .join .all [.join .any [older], known] ∧
      List.Forall₂ (t.log.Built people) [⟨1, 1⟩, ⟨1, 2⟩] [.join .any [older], known] ∧
      plan.predicate.leaves.Perm [older, known] := by
  intro people calls t older known
  have hopen : (engine.newBuilder ⟨7⟩).run ((Memory.new none).register people) =
      (.ok ⟨1, ⟨7⟩⟩, _) :=
    rfl
  have hmodel : ((Memory.new none).register people).model ⟨7⟩ = .ok people := rfl
  obtain ⟨plan, m', ps, hrun, hbuilt, -, -, hseveral, -, hleaves⟩ :=
    compile_traced (t := t) hopen hmodel calls rfl (by decide +kernel)
  have hstanding : t.log.standing = [⟨1, 1⟩, ⟨1, 2⟩] := by decide +kernel
  rw [hstanding] at hbuilt
  have hjoin : plan.predicate = .join .all ps := hseveral hbuilt.length_eq.le
  -- the plan that is made is known as well, and so are the trees that the two ids stand for
  obtain rfl := Except.ok.inj (congrArg Prod.fst hrun)
  obtain ⟨-, rfl⟩ := Predicate.join.inj hjoin
  exact ⟨_, m', hrun, rfl, hbuilt, hleaves⟩

end Memory

end EntityQuery
