import EntityQuery.Proofs.CarryOver

/-!
# The reads of a query agree

The calls of a query that read the store answer from one scan. They find the same objects, and only
`find` minds the result limit. If no plan can be made, all calls fail with the same error
(`Memory.reads_agree`).

* `Condition.stays_registerIn` says how a walk over a condition of any size ends: a condition that
  is registered was accepted, and one that was accepted is refused by the session only.
* `Memory.exists_makePlan` says the same of making a plan.
* `Memory.ReadsAgree` says how the answers belong together, and `Memory.readsAgree_of_makePlan` that
  they do whenever a plan can be made.
-/

namespace EntityQuery

/-! ## Walks of any length

A condition may have more nodes than there are ids, and then the session runs out of them. What can
still be said of a walk over any condition is how it may end: what goes through was accepted, and
what was accepted is refused by the session alone. This much is enough for the calls of a query to
agree. -/

/-- How something ends that is to be accepted by a schema first. What goes through was accepted, and
of what was accepted only a session refuses something. -/
def Settles {α : Type} (accepted : Prop) : Except Error α → Prop
  | .ok _ => accepted
  | .error err => accepted → ∃ r : Refusal, err = r.toError

/-- A run that settles and leaves a session of the same id on the same model. -/
def Session.Stays {τ α : Type} (s : Session) (host : Session → τ) (accepted : Prop)
    (ran : Except Error α × τ) : Prop :=
  Settles accepted ran.1 ∧ ∃ s' : Session, ran.2 = host s' ∧ s'.id = s.id ∧ s'.model = s.model

/-- A call that settles and keeps its id and model stays with the session that it is hosted from. -/
theorem Session.stays_hosted {τ α : Type} {s : Session} {host : Session → τ} {accepted : Prop}
    {act : Action Session α} (hframed : Session.Framed act)
    (hsettles : Settles accepted (act.run s).1) :
    s.Stays host accepted (Session.hosted host (act.run s)) :=
  ⟨hsettles, (act.run s).2, rfl, hframed s⟩

namespace Condition

variable {τ : Type} {r : Registrar τ} {id : UInt64} {host : Session → τ}

/-- Registering some conditions stays with the session if registering each of them does. -/
theorem stays_registerList {cs : List Condition}
    (hcs : ∀ c ∈ cs, ∀ s : Session, s.id = id →
      s.Stays host (c.AcceptedBy s.model) ((c.registerIn r).run (host s)))
    {s : Session} (hs : s.id = id) :
    s.Stays host (∀ c ∈ cs, c.AcceptedBy s.model) ((registerList r cs).run (host s)) := by
  induction cs generalizing s with
  | nil => exact ⟨List.forall_mem_nil _, s, rfl, rfl, rfl⟩
  | cons c rest ih =>
    obtain ⟨hc, hrest⟩ := List.forall_mem_cons.mp hcs
    have hfirst := hc s hs
    rw [registerList, Action.run_bind]
    generalize (c.registerIn r).run (host s) = ran at hfirst ⊢
    obtain ⟨outcome, t⟩ := ran
    obtain ⟨hsettles, s', rfl, hid, hmodel⟩ := hfirst
    cases outcome with
    | error err => exact ⟨fun h => hsettles (h c List.mem_cons_self), s', rfl, hid, hmodel⟩
    | ok i =>
      -- the rest is registered in the session that the first condition leaves
      have hothers := ih hrest (hid.trans hs)
      simp only [Action.run_bind]
      generalize (registerList r rest).run (host s') = ran at hothers ⊢
      obtain ⟨outcome, t⟩ := ran
      obtain ⟨hsettles', s'', rfl, hid', hmodel'⟩ := hothers
      rw [hmodel] at hsettles' hmodel'
      cases outcome with
      | error err =>
        exact ⟨fun h => hsettles' (List.forall_mem_cons.mp h).2, s'', rfl, hid'.trans hid, hmodel'⟩
      | ok ids =>
        exact ⟨List.forall_mem_cons.mpr ⟨hsettles, hsettles'⟩, s'', rfl, hid'.trans hid, hmodel'⟩

/-- However large the condition is, the walk over it stays with its session. -/
theorem stays_registerIn (hr : r.Hosts id host) (c : Condition) (s : Session) (hs : s.id = id) :
    s.Stays host (c.AcceptedBy s.model) ((c.registerIn r).run (host s)) := by
  induction c generalizing s with
  | compare c =>
    have haccepted : (∃ p, c.resolve s.model = .ok p) ↔ (compare c).AcceptedBy s.model :=
      exists_resolve_iff (c := compare c)
    rw [registerIn, Comparison.apply, hr.register s hs]
    refine Session.stays_hosted (Session.framed_register _) ?_
    rw [← haccepted, Session.run_register, Comparison.comparison_primitive]
    cases c.resolve s.model with
    | error err =>
      rintro ⟨_, hp⟩
      cases hp
    | ok p => exact ⟨p, rfl⟩
  | join j children ih =>
    have hchildren := stays_registerList ih hs
    rw [registerIn, Action.run_bind, acceptedBy_join_iff]
    generalize (registerList r children).run (host s) = ran at hchildren ⊢
    obtain ⟨outcome, t⟩ := ran
    obtain ⟨hsettles, s', rfl, hid, hmodel⟩ := hchildren
    cases outcome with
    | error err => exact ⟨hsettles, s', rfl, hid, hmodel⟩
    | ok ids =>
      -- the children were accepted, so only the session can refuse the junction
      have hjoined : s'.Stays host (∀ c ∈ children, c.AcceptedBy s.model)
          ((r.combine j ids).run (host s')) := by
        rw [hr.combine s' (hid.trans hs)]
        refine Session.stays_hosted (Session.framed_combine j ids) ?_
        cases hmade : ((Session.combine j ids).run s').1 with
        | error err => exact fun _ => Session.exists_refusal hmade
        | ok id => exact hsettles
      obtain ⟨hends, s'', ht, hid', hmodel'⟩ := hjoined
      exact ⟨hends, s'', ht, hid'.trans hid, hmodel'.trans hmodel⟩

end Condition

namespace Memory

variable {α : Type} {m : Memory} {e : EntityId} {c : Condition} {model : EntityModel}
  {p : Predicate}

/-! ## Plans of any size

The same two things are now said of making a plan, which adds compiling and closing the session.
Compiling cannot fail, so a plan is made whenever the walk goes through. -/

/-- Compiling a fresh session settles, and leaves it to be closed. -/
theorem exists_compiling (m : Memory) (model : EntityModel) (c : Condition) :
    ∃ (s : Session) (compiled : Except Error Predicate),
      s.id = m.nextBuilder ∧ s.model = model ∧ Settles (c.AcceptedBy model) compiled ∧
      (Query.compileIn engine ⟨m.nextBuilder, model.id⟩ c).run
        (m.opened (.new m.nextBuilder model)) = m.compiledIn s compiled := by
  let b : Builder := ⟨m.nextBuilder, model.id⟩
  have hstays :=
    Condition.stays_registerIn (hosts_opened m model.id) c (.new m.nextBuilder model) rfl
  show ∃ s compiled, _ ∧ _ ∧ _ ∧
    (c.registerIn (engine.registrar b) >>= fun _ => engine.compile b).run _ = _
  rw [Action.run_bind]
  generalize (c.registerIn (engine.registrar b)).run (m.opened (.new m.nextBuilder model)) = ran
    at hstays ⊢
  obtain ⟨outcome, t⟩ := ran
  obtain ⟨hsettles, s, rfl, hid, rfl⟩ := hstays
  cases outcome with
  | error err => exact ⟨s, .error err, hid, rfl, hsettles, rfl⟩
  | ok i =>
    -- the session is compiled to whatever it holds
    refine ⟨s, .ok s.compiled, hid, rfl, hsettles, ?_⟩
    exact run_compile (m := m.opened s) (b := b) rfl hid

/-- Making a plan settles on one, or fails. -/
theorem exists_makePlan (hmodel : m.model e = .ok model) (c : Condition) :
    ∃ compiled, Settles (c.AcceptedBy model) compiled ∧
      (Query.makePlan engine e c).run m = m.planMade model compiled := by
  obtain ⟨s, compiled, hid, rfl, hsettles, hrun⟩ := exists_compiling m model c
  exact ⟨compiled, hsettles, run_makePlan_of_compile hmodel hid hrun⟩

/-! ## Answers

All calls of a query read through a plan of the same predicate and a cursor over the same entity, so
what they answer is one scan of the same objects. Each of the four reads that scan in its own way,
and `find` stops at the limit. -/

/-- What a call of a fresh query answers. -/
def answer (m : Memory) (e : EntityId) (c : Condition) (i : Query.Inquiry α) : Except Error α :=
  ((i.perform engine).run (m, ⟨e, c, none⟩)).1

/-- All calls of a query fail with an error. -/
def Refuses (m : Memory) (e : EntityId) (c : Condition) (err : Error) : Prop :=
  ∀ (α : Type) (i : Query.Inquiry α), m.answer e c i = .error err

/-- The answers of the calls of a query that finds some objects, which are stored as some records.
Only `find` minds the limit of the store. -/
structure ReadsAgree (m : Memory) (e : EntityId) (c : Condition) (ids : List ObjectId)
    (records : List Bytes) : Prop where
  findIds : m.answer e c .findIds = .ok ids
  count : m.answer e c .count = .ok ids.length
  find : m.answer e c (.find (α := Bytes) .ok) =
    if ∀ limit ∈ m.limit, ids.length ≤ limit then .ok records
    else .error (.execution ("query matched " ++ ids.length.repr ++ " records, limit is "
      ++ (m.limit.getD 0).repr))
  /-- What is found is decoded in order. -/
  decoded : ∀ {α : Type} (decode : Bytes → Except Error α),
    m.answer e c (.find decode) = m.answer e c (.find (α := Bytes) .ok) >>= (·.mapM decode)
  describe : ∃ text, m.answer e c .describe = .ok text
  /-- Each record is the one that is stored under its id, and carries this id. -/
  stored : List.Forall₂ (fun o bytes => m.get e o = .ok (some bytes) ∧
    ∃ r, Record.decode bytes = .ok r ∧ r.id = o) ids records

/-- What a call of a query answers is what it answers without a slot for the plan. -/
theorem answer_eq (i : Query.Inquiry α) :
    m.answer e c i = ((Query.usePlan engine e c (i.use engine e)).run m).1 :=
  congrArg Prod.fst (i.keepsQuery engine e c m)

/-- If no plan can be made, every call fails with the reason for that. -/
theorem refuses_of_makePlan {m' : Memory} {err : Error}
    (hmake : (Query.makePlan engine e c).run m = (.error err, m')) : m.Refuses e c err := by
  intro α i
  rw [answer_eq, run_usePlan_refused _ hmake]

section Planned

variable (hmodel : m.model e = .ok model)
  (hmake : (Query.makePlan engine e c).run m = (.ok (m.planOf model p), m.planned))

include hmodel hmake

theorem answer_findIds :
    m.answer e c .findIds =
      m.planned.reading.findIds (m.planOf model p) (m.planned.cursorOn e) := by
  rw [answer_eq]
  exact congrArg Prod.fst (run_useCursor hmodel hmake rfl)

theorem answer_count :
    m.answer e c .count = m.planned.reading.count (m.planOf model p) (m.planned.cursorOn e) := by
  rw [answer_eq]
  exact congrArg Prod.fst (run_useCursor hmodel hmake rfl)

/-- Finding answers with the records of the scan, decoded in order. -/
theorem answer_find (decode : Bytes → Except Error α) :
    m.answer e c (.find decode) =
      m.planned.reading.find (m.planOf model p) (m.planned.cursorOn e) >>= (·.mapM decode) := by
  rw [answer_eq]
  refine congrArg Prod.fst (run_useCursor hmodel hmake ?_)
  rw [Action.run_bind, Action.run_ofQuestion]
  cases m.planned.reading.find (m.planOf model p) (m.planned.cursorOn e) with
  | error err => rfl
  | ok records => exact run_decodeAll decode records m.planned.reading

omit hmodel in
theorem answer_describe :
    m.answer e c .describe = .ok (Memory.describe (m.planOf model p)) := by
  rw [answer_eq]
  exact congrArg Prod.fst (run_usePlan hmake rfl rfl)

end Planned

/-- A search minds the limit of the store, and nothing else. -/
theorem find_of_matching {k : Cursor} {plan : Plan} {matched : List (ObjectId × Bytes)}
    (h : m.matching plan k = .ok matched) :
    m.find plan k =
      if ∀ limit ∈ m.limit, matched.length ≤ limit then .ok (matched.map (·.2))
      else .error (.execution ("query matched " ++ matched.length.repr ++ " records, limit is "
        ++ (m.limit.getD 0).repr)) := by
  rw [find, h]
  cases m.limit with
  | none => rfl
  | some limit =>
    by_cases hlimit : limit < matched.length
    · simp [hlimit, Nat.not_le.mpr hlimit, bind, Except.bind]
    · simp [hlimit, Nat.not_lt.mp hlimit, bind, Except.bind, pure, Except.pure]

/-- If a plan can be made, all calls answer from the objects that its predicate selects. -/
theorem readsAgree_of_makePlan (hm : m.Reachable) (hmodel : m.model e = .ok model)
    (hmake : (Query.makePlan engine e c).run m = (.ok (m.planOf model p), m.planned)) :
    ∃ ids records, m.ReadsAgree e c ids records := by
  -- an entity with a schema has records, and its schema is its own
  obtain ⟨objects, hobjects⟩ := hm.paired.exists_objects hmodel
  have hid : model.id = e := hm.filed e model (model_eq_ok_iff.mp hmodel)
  let matched := objects.toList.filter fun entry => satisfies p entry.2
  -- a scan goes over all objects of the entity, and all of them can be read
  have hmatching : m.planned.reading.matching (m.planOf model p) (m.planned.cursorOn e) =
      .ok matched := by
    have hobjects' : m.planned.reading.objects e = .ok objects := hobjects
    rw [matching_planOf hobjects' hid rfl]
    exact select_eq_filter fun entry hentry =>
      hm.readable e entry.1 entry.2 ((get_eq_ok_some_iff hobjects).mpr hentry)
  have hfind : m.answer e c (.find (α := Bytes) .ok) =
      m.planned.reading.find (m.planOf model p) (m.planned.cursorOn e) := by
    have hkept : ∀ records : List Bytes, records.mapM .ok = (.ok records : Except Error _) := by
      intro records
      have hpure := List.mapM_pure (m := Except Error) (l := records) (f := id)
      rwa [List.map_id] at hpure
    rw [answer_find hmodel hmake]
    simp only [hkept]
    exact bind_pure _
  refine ⟨matched.map (·.1), matched.map (·.2), ?_, ?_, ?_, fun decode => ?_, ?_, ?_⟩
  · rw [answer_findIds hmodel hmake, findIds, hmatching]
    rfl
  · rw [answer_count hmodel hmake, count, hmatching, List.length_map]
    rfl
  · rw [hfind, find_of_matching hmatching, List.length_map]
    rfl
  · rw [answer_find hmodel hmake, hfind]
  · exact ⟨_, answer_describe hmake⟩
  · rw [List.forall₂_map_left_iff, List.forall₂_map_right_iff, List.forall₂_same]
    intro entry hentry
    have hget : m.get e entry.1 = .ok (some entry.2) :=
      (get_eq_ok_some_iff hobjects).mpr (List.mem_of_mem_filter hentry)
    exact ⟨hget, hm.keyed e entry.1 entry.2 hget⟩

/-- In every state of a store the calls of a query agree on what they find. A condition that the
schema refuses, or an entity without a schema, makes all of them fail with the same error. So may a
condition that has more nodes than there are ids, where the session can run out of them. -/
theorem reads_agree (hm : m.Reachable) (e : EntityId) (c : Condition) :
    (∀ err, m.model e = .error err → m.Refuses e c err) ∧
      ∀ model, m.model e = .ok model →
        (c.AcceptedBy model → (∃ ids records, m.ReadsAgree e c ids records) ∨
          2 ^ 32 < c.size ∧ ∃ r : Refusal, m.Refuses e c r.toError) ∧
        (¬ c.AcceptedBy model → ∃ err, m.Refuses e c err) := by
  refine ⟨fun err hmodel => ?_, fun model hmodel => ?_⟩
  · have hmake : (Query.makePlan engine e c).run m = (.error err, m) := by
      rw [Query.makePlan, Action.run_bind, run_newBuilder_refused hmodel]
    exact refuses_of_makePlan hmake
  · obtain ⟨compiled, hsettles, hmake⟩ := exists_makePlan hmodel c
    cases compiled with
    | ok p =>
      refine ⟨fun _ => .inl ?_, fun hrefused => absurd hsettles hrefused⟩
      exact readsAgree_of_makePlan hm hmodel hmake
    | error err =>
      refine ⟨fun haccepted => .inr ⟨?_, ?_⟩, fun _ => ⟨err, refuses_of_makePlan hmake⟩⟩
      · -- there are ids enough for a smaller condition
        by_contra hsize
        obtain ⟨p, hp⟩ := Condition.exists_resolve_iff.mpr haccepted
        rw [run_makePlan hmodel (Nat.le_of_not_lt hsize), hp] at hmake
        cases congrArg Prod.fst hmake
      · obtain ⟨r, rfl⟩ := hsettles haccepted
        exact ⟨r, refuses_of_makePlan hmake⟩

/-- Two objects match where one record may be returned. A comparison of a property that is not
declared makes all calls fail. -/
theorem reads_agree_people :
    let people : EntityModel := (EntityModel.new ⟨7⟩ "Person").declare ⟨3⟩ "age" (.integer .uint8)
    let m := ((((Memory.new (some 1)).write (.register people)).write
      (.put ⟨7⟩ (.ofList [(⟨3⟩, .uint 41)]))).write (.put ⟨7⟩ .empty)).write
      (.put ⟨7⟩ (.ofList [(⟨3⟩, .uint 12)]))
    (∃ ids records, m.ReadsAgree ⟨7⟩ (.all [.compare ⟨⟨3⟩, .notNull⟩]) ids records) ∧
      ∃ err, m.Refuses ⟨7⟩ (.any [.compare ⟨⟨9⟩, .isNull⟩]) err := by
  intro people m
  have hm : m.Reachable := .write _ (.write _ (.write _ (.write _ (.new _))))
  have hmodel : m.model ⟨7⟩ = .ok people := rfl
  have hpresent := reads_agree hm ⟨7⟩ (.all [.compare ⟨⟨3⟩, .notNull⟩])
  have hunknown := reads_agree hm ⟨7⟩ (.any [.compare ⟨⟨9⟩, .isNull⟩])
  refine ⟨((hpresent.2 people hmodel).1 (by decide +kernel)).resolve_right fun hcrowded => ?_,
    (hunknown.2 people hmodel).2 (by decide +kernel)⟩
  exact absurd hcrowded.1 (by decide)

end Memory

end EntityQuery
