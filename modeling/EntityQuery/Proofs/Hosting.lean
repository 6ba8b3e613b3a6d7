import EntityQuery.Memory
import EntityQuery.Proofs.PlanSlot
import EntityQuery.Proofs.Registration

/-!
# Query calls on the memory store

A call of a query opens a builder session, compiles it and closes it again, and reads the store with
a cursor that is open only meanwhile. So what a call gives is what its question gives of the
compiled predicate, and what it leaves is the store with its counters moved on.

* `Memory.hosts_registrar` says that a session of the store can be registered with as a session that
  stands alone.
* `Memory.run_makePlan` and `Memory.run_withCursor` say what the two halves of a call do.
* `Memory.run_usePlan` and `Memory.run_useCursor` put them together.
-/

namespace EntityQuery

namespace Memory

variable {α : Type}

/-! ## Sessions of the store

The store keeps its sessions in a list, the newest first, and a call of a session goes to the newest
one of its id. That one is reached past the newer sessions of other ids, and nothing else of the
store is looked at. -/

/-- A call of the newest session of an id leaves the newer and the older sessions alone. -/
theorem callFirst_append {before rest : List Session} {s : Session}
    (h : ∀ x ∈ before, x.id ≠ s.id) (act : Action Session α) :
    callFirst s.id act (before ++ s :: rest) =
      ((act.run s).1, before ++ (act.run s).2 :: rest) := by
  induction before with
  | nil => rw [List.nil_append, callFirst, if_pos rfl, List.nil_append]
  | cons x others ih =>
    obtain ⟨hx, hothers⟩ := List.forall_mem_cons.mp h
    rw [List.cons_append, callFirst, if_neg hx, ih hothers, List.cons_append]

/-- Without a session of the id, the call is refused and no session is touched. -/
theorem callFirst_of_not_mem {id : UInt64} {sessions : List Session}
    (h : id ∉ sessions.map (·.id)) (act : Action Session α) :
    callFirst id act sessions = (.error (.build (notOpen "builder" id.toNat)), sessions) := by
  induction sessions with
  | nil => rfl
  | cons s rest ih =>
    obtain ⟨hne, hrest⟩ := List.ne_and_not_mem_of_not_mem_cons h
    rw [callFirst, if_neg (Ne.symm hne), ih hrest]

/-- A call of the newest session of an id is a call of this session alone. -/
theorem run_onSession {m : Memory} {b : Builder} {before rest : List Session} {s : Session}
    (hm : m.sessions = before ++ s :: rest) (hbefore : ∀ x ∈ before, x.id ≠ b.id)
    (hid : s.id = b.id) (act : Action Session α) :
    (onSession b act).run m =
      Session.hosted (fun s => { m with sessions := before ++ s :: rest }) (act.run s) := by
  rw [onSession, Action.run_ofFun, hm, ← hid, callFirst_append (hid ▸ hbefore)]
  rfl

/-- The newest session of an id is registered with as a session that stands alone. -/
theorem hosts_registrar (m : Memory) (b : Builder) (before rest : List Session)
    (h : ∀ x ∈ before, x.id ≠ b.id) :
    (engine.registrar b).Hosts b.id fun s => { m with sessions := before ++ s :: rest } where
  register _ hid p := run_onSession rfl h hid (Session.register p)
  combine _ hid j ids := run_onSession rfl h hid (Session.combine j ids)

/-! ## Handles

Builder sessions, plans and cursors are given back alike. What differs is where the open ones are
listed and what is said of one that is not open. -/

/-- A handle that is open is given back, and one that is not is refused. -/
theorem run_giveBack (m : Memory) (sort : String) (id : Nat) (isOpen : Memory → Bool)
    (close : Memory → Memory) :
    (giveBack sort id isOpen close).run m =
      if isOpen m then (.ok (), close m) else (.error (.release (notOpen sort id)), m) := by
  rw [giveBack, Action.run_bind, Action.run_ofQuestion]
  cases isOpen m <;> rfl

/-! ## Plans

Making a plan opens a session, fills it, compiles it and closes it. What each of the four steps
leaves is named, so that the whole is one equation: the plan of the predicate that the condition
becomes, and a store in which only the counters moved. -/

/-- The store once a builder session was opened. -/
def opened (m : Memory) (s : Session) : Memory :=
  { m with nextBuilder := m.nextBuilder + 1, sessions := s :: m.sessions }

/-- The plan of a predicate on an entity, were it made next. -/
def planOf (m : Memory) (model : EntityModel) (p : Predicate) : Plan :=
  ⟨m.nextPlan, model.id, model.name, p⟩

/-- The store once a builder session was opened and closed again. -/
def visited (m : Memory) : Memory :=
  { m with nextBuilder := m.nextBuilder + 1 }

/-- The store once a plan was made that is not closed yet. -/
def planned (m : Memory) : Memory :=
  { m.visited with nextPlan := m.nextPlan + 1, plans := m.nextPlan :: m.plans }

/-- What compiling gives, and the store that it leaves while the builder session is still open. -/
def compiledIn (m : Memory) (s : Session) : Except Error Predicate → Except Error Plan × Memory
  | .ok p => (.ok (m.planOf s.model p), { m.opened s with
      nextPlan := m.nextPlan + 1
      plans := m.nextPlan :: m.plans })
  | .error err => (.error err, m.opened s)

/-- What making a plan gives, and the store that it leaves. -/
def planMade (m : Memory) (model : EntityModel) :
    Except Error Predicate → Except Error Plan × Memory
  | .ok p => (.ok (m.planOf model p), m.planned)
  | .error err => (.error err, m.visited)

/-- Compiling an open session conjoins what it holds and leaves it open. -/
theorem run_compile_of_find? {m : Memory} {s : Session} {b : Builder}
    (hs : m.sessions.find? (·.id == b.id) = some s) :
    (engine.compile b).run m = (.ok (m.planOf s.model s.compiled), { m with
      nextPlan := m.nextPlan + 1
      plans := m.nextPlan :: m.plans }) := by
  show (compile b).run m = _
  rw [compile, Action.run_bind, Action.run_ofQuestion, session, hs]
  rfl

/-- The newest session compiles to what it holds. -/
theorem run_compile {m : Memory} {s : Session} {rest : List Session} {b : Builder}
    (hs : m.sessions = s :: rest) (hid : s.id = b.id) :
    (engine.compile b).run m = (.ok (m.planOf s.model s.compiled), { m with
      nextPlan := m.nextPlan + 1
      plans := m.nextPlan :: m.plans }) :=
  run_compile_of_find? (by simp [hs, hid])

/-- The session that was just opened is registered with as a session that stands alone. -/
theorem hosts_opened (m : Memory) (e : EntityId) :
    (engine.registrar ⟨m.nextBuilder, e⟩).Hosts m.nextBuilder m.opened :=
  hosts_registrar { m with nextBuilder := m.nextBuilder + 1 } ⟨m.nextBuilder, e⟩ [] m.sessions
    (List.forall_mem_nil _)

/-- A condition is registered with a fresh session up to the first comparison that is refused. -/
theorem run_registerIn_opened (m : Memory) (model : EntityModel) {c : Condition}
    (hsize : c.size ≤ 2 ^ 32) :
    (c.registerIn (engine.registrar ⟨m.nextBuilder, model.id⟩)).run
        (m.opened (.new m.nextBuilder model)) =
      ((c.resolve model).map fun _ =>
          Session.idAt (.new m.nextBuilder model) ((c.slots model).length - 1),
        m.opened ⟨m.nextBuilder, model, c.slots model⟩) := by
  -- a fresh session has no slots, so the ones of the condition are all there are
  have hwalk := Condition.run_registerIn (s := .new m.nextBuilder model)
    (hosts_opened m model.id) c (by rw [Session.new, List.length_nil]; omega)
  rw [Session.new, List.length_nil, Nat.zero_add] at hwalk
  exact hwalk

/-- Registering a condition with a fresh session and compiling the session gives a plan for the
predicate that the condition becomes. -/
theorem run_compiling (m : Memory) (model : EntityModel) {c : Condition}
    (hsize : c.size ≤ 2 ^ 32) :
    (Query.compileIn engine ⟨m.nextBuilder, model.id⟩ c).run
        (m.opened (.new m.nextBuilder model)) =
      m.compiledIn ⟨m.nextBuilder, model, c.slots model⟩ (c.resolve model) := by
  let b : Builder := ⟨m.nextBuilder, model.id⟩
  let filled : Session := ⟨m.nextBuilder, model, c.slots model⟩
  have hwalk : (c.registerIn (engine.registrar b)).run (m.opened (.new m.nextBuilder model)) =
      ((c.resolve model).map fun _ => _, m.opened filled) :=
    run_registerIn_opened m model hsize
  show (c.registerIn (engine.registrar b) >>= fun _ => engine.compile b).run _ = _
  rw [Action.run_bind, hwalk]
  cases hp : c.resolve model with
  | error err => rfl
  | ok p =>
    -- one slot is left untaken, so the session compiles to what is in it
    have hcompiled : filled.compiled = p := by
      have huntaken : filled.untaken = [p] := Condition.roots_slots hp
      rw [Session.compiled, huntaken, Predicate.conjoin]
    have hcompile : (engine.compile b).run (m.opened filled) = _ := run_compile rfl rfl
    rw [hcompiled] at hcompile
    exact hcompile

theorem run_closeBuilder {m : Memory} {s : Session} {rest : List Session} {b : Builder}
    (hs : m.sessions = s :: rest) (hid : s.id = b.id) :
    (engine.closeBuilder b).run m = (.ok (), { m with sessions := rest }) := by
  simp [closeBuilder, run_giveBack, hs, hid]

theorem run_newBuilder_refused {m : Memory} {e : EntityId} {err : Error}
    (hmodel : m.model e = .error err) : (engine.newBuilder e).run m = (.error err, m) := by
  show (newBuilder e).run m = _
  rw [newBuilder, Action.run_bind, Action.run_ofQuestion, hmodel]

/-- With a schema, a fresh session is opened over it. -/
theorem run_newBuilder {m : Memory} {e : EntityId} {model : EntityModel}
    (hmodel : m.model e = .ok model) :
    (engine.newBuilder e).run m =
      (.ok ⟨m.nextBuilder, model.id⟩, m.opened (.new m.nextBuilder model)) := by
  show (newBuilder e).run m = _
  rw [newBuilder, Action.run_bind, Action.run_ofQuestion, hmodel]
  rfl

/-- A plan is made of what its builder session compiles to, and the session is gone afterwards. -/
theorem run_makePlan_of_compile {m : Memory} {e : EntityId} {c : Condition} {s : Session}
    {compiled : Except Error Predicate} (hmodel : m.model e = .ok s.model)
    (hid : s.id = m.nextBuilder)
    (hcompile : (Query.compileIn engine ⟨m.nextBuilder, s.model.id⟩ c).run
      (m.opened (.new m.nextBuilder s.model)) = m.compiledIn s compiled) :
    (Query.makePlan engine e c).run m = m.planMade s.model compiled := by
  simp only [Query.makePlan, Query.makePlanIn, Action.run_bind, run_newBuilder hmodel,
    Action.run_attempt, hcompile]
  -- the builder session is closed either way; only the plan stays open
  cases compiled with
  | error err =>
    have hclose : (engine.closeBuilder ⟨m.nextBuilder, s.model.id⟩).run (m.opened s) =
        (.ok (), m.visited) :=
      run_closeBuilder rfl hid
    simp only [compiledIn, hclose]
    rfl
  | ok p =>
    have hclose : (engine.closeBuilder ⟨m.nextBuilder, s.model.id⟩).run { m.opened s with
        nextPlan := m.nextPlan + 1
        plans := m.nextPlan :: m.plans } = (.ok (), m.planned) :=
      run_closeBuilder rfl hid
    simp only [compiledIn, hclose]
    rfl

/-- A plan is made for the predicate that the condition becomes. -/
theorem run_makePlan {m : Memory} {e : EntityId} {model : EntityModel} {c : Condition}
    (hmodel : m.model e = .ok model) (hsize : c.size ≤ 2 ^ 32) :
    (Query.makePlan engine e c).run m = m.planMade model (c.resolve model) :=
  run_makePlan_of_compile (s := ⟨m.nextBuilder, model, c.slots model⟩) hmodel rfl
    (run_compiling m model hsize)

/-- A plan that can be made is used and closed again, so what is left is what its use leaves. -/
theorem run_usePlan {m m' : Memory} {e : EntityId} {model : EntityModel} {c : Condition}
    {p : Predicate} {use : Plan → Action Memory α} {outcome : Except Error α}
    (hmake : (Query.makePlan engine e c).run m = (.ok (m.planOf model p), m.planned))
    (huse : (use (m.planOf model p)).run m.planned = (outcome, m'))
    (hplans : m'.plans = m.planned.plans) :
    (Query.usePlan engine e c use).run m = (outcome, { m' with plans := m.plans }) := by
  -- what the use leaves still lists the plan, so closing it takes it off again
  have hclose : (engine.closePlan (m.planOf model p)).run m' =
      (.ok (), { m' with plans := m.plans }) := by
    simp [closePlan, run_giveBack, hplans, planned, visited, planOf]
  simp only [Query.usePlan, Action.run_bind, hmake, Action.run_thenRelease, huse, hclose]
  cases outcome <;> rfl

/-- A call of a query ends with the error that no plan could be made with. -/
theorem run_usePlan_refused {m m' : Memory} {e : EntityId} {c : Condition} {err : Error}
    (use : Plan → Action Memory α) (hmake : (Query.makePlan engine e c).run m = (.error err, m')) :
    (Query.usePlan engine e c use).run m = (.error err, m') := by
  simp only [Query.usePlan, Action.run_bind, hmake]

/-! ## Cursors

A cursor is opened in a transaction and closed before the transaction ends. What is only asked in
between sees the store as it was, with the cursor open. -/

/-- The cursor over an entity that would be opened next, in a transaction of its own. -/
def cursorOn (m : Memory) (e : EntityId) : Cursor :=
  ⟨m.nextCursor, ⟨m.nextTx⟩, e⟩

/-- The store while a cursor is open in a transaction of its own. -/
def reading (m : Memory) : Memory :=
  { m with
    nextTx := m.nextTx + 1
    nextCursor := m.nextCursor + 1
    cursors := m.nextCursor :: m.cursors }

/-- The store once that cursor was closed and its transaction ended. -/
def read (m : Memory) : Memory :=
  { m with nextTx := m.nextTx + 1, nextCursor := m.nextCursor + 1 }

/-- What is only asked with a cursor is answered while the cursor is open, and leaves the store with
the cursor closed. -/
theorem run_withCursor {m : Memory} {e : EntityId} {model : EntityModel} {mode : TxMode}
    {body : Cursor → Action Memory α} {outcome : Except Error α} (hmodel : m.model e = .ok model)
    (hbody : (body (m.cursorOn e)).run m.reading = (outcome, m.reading)) :
    (engine.withCursor e mode body).run m = (outcome, m.read) := by
  have hbegin : (engine.beginTx mode).run m =
      (.ok ⟨⟨m.nextTx⟩, mode⟩, { m with nextTx := m.nextTx + 1 }) :=
    rfl
  have hopen : (engine.openCursor ⟨⟨m.nextTx⟩, mode⟩ e).run { m with nextTx := m.nextTx + 1 } =
      (.ok (m.cursorOn e), m.reading) := by
    -- a transaction does not change what is stored
    have hmodel' : ({ m with nextTx := m.nextTx + 1 } : Memory).model e = .ok model := hmodel
    show (openCursor _ e).run _ = _
    rw [openCursor, Action.run_bind, Action.run_ofQuestion, hmodel']
    rfl
  have hclose : (engine.closeCursor (m.cursorOn e)).run m.reading = (.ok (), m.read) := by
    simp [closeCursor, run_giveBack, reading, read, cursorOn]
  have hend : (engine.endTx ⟨⟨m.nextTx⟩, mode⟩).run m.read = (.ok (), m.read) :=
    rfl
  simp only [Engine.withCursor, Action.run_bind, hbegin, Action.run_thenRelease, hopen, hbody,
    hclose, hend]
  cases outcome <;> rfl

/-! ## Whole calls

A call of a query makes a plan, asks a question with a cursor, and leaves no handle open. It is the
store that the question is asked of, since neither the plan nor the cursor changes what is stored.
-/

/-- The store once a call of a query was answered, with its counters moved on. -/
def queried (m : Memory) : Memory :=
  { m.planned.read with plans := m.plans }

/-- What is only asked with a plan and a cursor is answered, and leaves the store as it was but for
its counters. -/
theorem run_useCursor {m : Memory} {e : EntityId} {model : EntityModel} {c : Condition}
    {p : Predicate} {use : Plan → Cursor → Action Memory α} {outcome : Except Error α}
    (hmodel : m.model e = .ok model)
    (hmake : (Query.makePlan engine e c).run m = (.ok (m.planOf model p), m.planned))
    (huse : (use (m.planOf model p) (m.planned.cursorOn e)).run m.planned.reading =
      (outcome, m.planned.reading)) :
    (Query.usePlan engine e c fun plan => engine.withCursor e .readOnly (use plan)).run m =
      (outcome, m.queried) := by
  have hmodel' : m.planned.model e = .ok model := hmodel
  exact run_usePlan hmake (run_withCursor hmodel' huse) rfl

/-- The objects that match a plan of the entity are those that its predicate selects. -/
theorem matching_planOf {m m' : Memory} {e : EntityId} {model : EntityModel}
    {objects : Table ObjectId Bytes} {p : Predicate} {k : Cursor}
    (hobjects : m'.objects e = .ok objects) (hid : model.id = e) (hk : k.entity = e) :
    m'.matching (m.planOf model p) k = select p objects.toList := by
  simp [matching, planOf, hid, hk, hobjects, bind, Except.bind]

/-- A query whose plan can be made answers with what the plan's predicate selects. -/
theorem run_findIds_of_makePlan {m : Memory} {e : EntityId} {model : EntityModel}
    {objects : Table ObjectId Bytes} {c : Condition} {p : Predicate}
    (hmodel : m.model e = .ok model) (hobjects : m.objects e = .ok objects) (hid : model.id = e)
    (hmake : (Query.makePlan engine e c).run m = (.ok (m.planOf model p), m.planned)) :
    (Query.findIds engine).run (m, ⟨e, c, none⟩) =
      ((select p objects.toList).map (·.map (·.1)), m.queried, ⟨e, c, none⟩) := by
  have hask : (engine.findIds (m.planOf model p) (m.planned.cursorOn e)).run m.planned.reading =
      ((select p objects.toList).map (·.map (·.1)), m.planned.reading) := by
    show (Action.ofQuestion (findIds · _ _)).run _ = _
    -- neither the plan nor the cursor changes what is stored
    have hobjects' : m.planned.reading.objects e = .ok objects := hobjects
    rw [Action.run_ofQuestion, findIds, matching_planOf hobjects' hid rfl]
    cases select p objects.toList <;> rfl
  rw [Query.run_findIds engine e c m, run_useCursor hmodel hmake hask]

/-- Finding ids answers with what the predicate of the condition selects. -/
theorem run_findIds {m : Memory} {e : EntityId} {model : EntityModel}
    {objects : Table ObjectId Bytes} {c : Condition} {p : Predicate}
    (hmodel : m.model e = .ok model) (hobjects : m.objects e = .ok objects) (hid : model.id = e)
    (hsize : c.size ≤ 2 ^ 32) (hp : c.resolve model = .ok p) :
    (Query.findIds engine).run (m, ⟨e, c, none⟩) =
      ((select p objects.toList).map (·.map (·.1)), m.queried, ⟨e, c, none⟩) := by
  have hmake := run_makePlan (c := c) hmodel hsize
  rw [hp] at hmake
  exact run_findIds_of_makePlan hmodel hobjects hid hmake

end Memory

end EntityQuery
