import EntityQuery.Proofs.Holdings

/-!
# Nothing is left open but what the client holds

After any activities, with calls made to fail and not made to fail as they please, what the store
counts as open is what the client was given by steps of its own and has not given back
(`Client.afterAll_balanced`). So a call of a query and work with a cursor have no effect on the
counters, even when they fail half way, and no handle is given back twice.

* `Client.Sound.perform` says that an activity keeps the handles sound, by induction on the
  activity.
* `Client.handles_perform` says that an activity in which no step moves handles leaves them alone.
-/

namespace EntityQuery

theorem Event.acquired_of_release {σ : Type} {E : Engine σ} {ev : Event E} {x : Handle E}
    (h : ev.call.released? = some x) : ev.acquired = [] := by
  obtain ⟨c, outcome⟩ := ev
  obtain rfl : c = x.release := Call.eq_release_of_released? h
  cases outcome <;> cases x <;> rfl

/-- What was given out is what was given back and what is held. -/
theorem Accounts.conserves {σ : Type} {E : Engine σ} {held held' : List (Handle E)}
    {evs : List (Event E)} (h : Accounts held evs held') :
    (held + evs.flatMap Event.acquired : Multiset (Handle E)) =
      evs.filterMap (·.call.released?) + held' := by
  -- call by call: a release moves a handle from one side to the other, and any other call adds what
  -- it gives out to both
  induction h with
  | nil => simp
  | @cons ev evs held _ _ hmoves _ ih =>
    cases hmoves with
    | @release x newer older hcall =>
      have hnone : Event.acquired _ = [] := Event.acquired_of_release hcall
      simp only [List.flatMap_cons, hnone, List.nil_append, List.filterMap_cons, hcall]
      rw [coe_middle, Multiset.cons_add, ih, ← Multiset.cons_coe, Multiset.cons_add]
    | use hcall =>
      simp only [List.flatMap_cons, List.filterMap_cons, hcall]
      rw [← ih, ← Multiset.coe_add, ← Multiset.coe_add, ← Multiset.add_assoc,
        Multiset.add_comm (held : Multiset (Handle E))]

namespace Step

/-- Whether the step gives out a handle or takes one back. -/
def movesHandles : Step → Bool
  | openBuilder _ | compile _ | closeBuilder _ | openQueryBuilder _ | compileIn _
  | closeQueryBuilder _ | dropQueryBuilder _ | closePlan _ | beginTx _ | endTx _ | openCursor ..
  | closeCursor _ => true
  | _ => false

end Step

/-- No step of the activity gives out a handle or takes one back. -/
def Activity.Quiet : Activity → Prop
  | done _ => True
  | look next => ∀ c, (next c).Quiet
  | step s next => s.movesHandles = false ∧ ∀ r, (next r).Quiet
  | search _ _ _ next => ∀ r, (next r).Quiet
  | withCursor _ _ body next => body.Quiet ∧ ∀ outcome, (next outcome).Quiet

namespace Client

variable {α : Type} {borrowed : Multiset (Handle Memory.engine)} {c : Client}

theorem handles_answerQueryBuilder {n : HandleNumber}
    {call : Action (ClientStore × QueryBuilder Memory.Builder) α}
    {act : Memory.Builder → Action ClientStore α}
    (hcall : QueryBuilder.Forwards (E := engine) call act) (f : α → Reply) :
    (c.answerQueryBuilder n call f).2.handles = c.handles := by
  refine withHandle_induct (P := fun c' => c'.handles = c.handles) rfl fun b hb => ?_
  obtain ⟨r, hforward⟩ := hcall c.store b
  have hrun : call.run (c.store, b) = (((act b.handle).run c.store).1,
      ((act b.handle).run c.store).2, { b with registered := r }) :=
    hforward
  rw [hrun]
  exact handles_setQueryBuilder hb

/-- A step that moves no handles leaves them alone. -/
theorem handles_step {s : Step} (hs : s.movesHandles = false) :
    (c.step s).2.handles = c.handles := by
  cases s with
  | openBuilder | compile | closeBuilder | openQueryBuilder | compileIn | closeQueryBuilder
  | dropQueryBuilder | closePlan | beginTx | endTx | openCursor | closeCursor => cases hs
  | register | model | put | putAll | remove | get | limit | fault | query | ask | withCursor => rfl
  | setCondition | info | applyTo | combineIn | builderInfo | planDescribe | find | findIds | count
  | describe =>
    exact withHandle_induct (P := fun c' => c'.handles = c.handles) rfl fun _ _ => rfl
  | dropQuery n =>
    exact withHandle_induct (P := fun c' => c'.handles = c.handles) rfl fun _ _ => rfl
  | planFind | planFindIds | planCount =>
    refine withHandle_induct (P := fun c' => c'.handles = c.handles) rfl fun _ _ => ?_
    exact withHandle_induct (P := fun c' => c'.handles = c.handles) rfl fun _ _ => rfl
  | registerIn n comparison =>
    exact handles_answerQueryBuilder (QueryBuilder.forwards_apply comparison) _
  | join n j ids => exact handles_answerQueryBuilder (QueryBuilder.forwards_combine j ids) _
  | registerAll n condition =>
    exact handles_answerQueryBuilder (QueryBuilder.forwards_registerIn condition) _

/-! ## Activities

An activity may look at the client, take any step, search with a cursor that it was lent, and open a
cursor for a part of itself. Only the last of these borrows: the body is lent a cursor and its
transaction, which the client does not hold, and both are given back when the body is over. -/

namespace Sound

variable {x : Handle Memory.engine}

theorem acquires_onStore {act : Action ClientStore α} {x : α → Handle Memory.engine}
    (hact : ∀ held, borrowed ⊆ held →
      act.Acquires (Custody held) fun a => Custody (x a ::ₘ held)) :
    (onStore act).Acquires (Sound borrowed) fun a => Sound (x a ::ₘ borrowed) := by
  intro c h
  have hsub : borrowed ⊆ c.handles + borrowed :=
    fun y hy => Multiset.mem_add.mpr (.inr hy)
  have hgiven := hact (c.handles + borrowed) hsub c.store h.custody
  unfold onStore
  rw [Action.run_ofFun, Client.run]
  generalize act.run c.store = r at hgiven ⊢
  rcases r with ⟨e | a, s⟩
  · exact h.withStore hgiven
  · refine ⟨?_, h.unbuilt⟩
    rw [Multiset.add_cons]
    exact hgiven

theorem leads_onStore {act : Action ClientStore α}
    (hact : ∀ held, act.Leads (Custody (x ::ₘ held)) (Custody held)) :
    (onStore act).Leads (Sound (x ::ₘ borrowed)) (Sound borrowed) := by
  intro c h
  have hcustody := h.custody
  rw [Multiset.add_cons] at hcustody
  exact ⟨hact _ _ hcustody, h.unbuilt⟩

/-- A search with a plan that is held and a cursor that is lent changes nothing. -/
theorem search (h : c.Sound borrowed) (how : Search) {p : Memory.Plan} {k : Memory.Cursor}
    (hp : .plan p ∈ c.handles + borrowed) (hk : .cursor k ∈ c.handles + borrowed) :
    (c.search how p k).2.Sound borrowed := by
  cases how with
  | find => exact h.answer (Custody.find hp hk) _
  | findIds => exact h.answer (Custody.findIds hp hk) _
  | count => exact h.answer (Custody.count hp hk) _

/-- An activity leaves nothing open but what the client holds, and what it was lent. -/
theorem perform (a : Activity) {cursors : List Memory.Cursor}
    (hcursors : ∀ k ∈ cursors, .cursor k ∈ borrowed) :
    (a.perform cursors).Leads (Sound borrowed) (Sound borrowed) := by
  -- the induction is on the activity; what is borrowed grows with each cursor that is opened
  induction a generalizing cursors borrowed with
  | done outcome =>
    intro c h
    rwa [Activity.perform, Action.run_ofExcept]
  | look next ih =>
    intro c h
    rw [Activity.perform, Action.run_bind, Action.run_get]
    exact ih c hcursors c h
  | step s next ih =>
    rw [Activity.perform]
    exact Action.Leads.bind (fun c h => h.step s) fun r => ih r hcursors
  | search how plan depth next ih =>
    rw [Activity.perform]
    refine Action.Leads.bind (fun c h => ?_) fun r => ih r hcursors
    rw [Action.run_ofFun]
    split
    · rename_i p k hp hk
      exact h.search how (mem_held (handles_of_plan hp))
        (Multiset.mem_add.mpr (.inr (hcursors k (List.mem_of_getElem? hk))))
    · exact h
  | withCursor e mode body next ihbody ihnext =>
    rw [Activity.perform]
    -- the body is lent the transaction and the cursor, besides what was lent before
    have hbody : ∀ t k, (body.perform (k :: cursors)).Leads
        (Sound (.cursor k ::ₘ .tx t ::ₘ borrowed)) (Sound (.cursor k ::ₘ .tx t ::ₘ borrowed)) := by
      intro t k
      refine ihbody (List.forall_mem_cons.mpr ⟨Multiset.mem_cons_self _ _, fun k' hk' => ?_⟩)
      exact Multiset.mem_cons_of_mem (Multiset.mem_cons_of_mem (hcursors k' hk'))
    have hbegin : (onStore (engine.beginTx mode)).Acquires (Sound borrowed)
        fun t => Sound (.tx t ::ₘ borrowed) :=
      acquires_onStore fun held _ => Custody.beginTx mode
    have hopen : ∀ t, (onStore (engine.openCursor t e)).Acquires (Sound (.tx t ::ₘ borrowed))
        fun k => Sound (.cursor k ::ₘ .tx t ::ₘ borrowed) :=
      fun t => acquires_onStore fun held hsub =>
        Custody.openCursor e (hsub (Multiset.mem_cons_self (.tx (E := Memory.engine) t) borrowed))
    have hwhole := Engine.withCursor_leads (E := engine.lift onStore) hbegin hopen hbody
      (fun t k => leads_onStore fun held s hs => hs.give)
      (fun t => leads_onStore fun held s hs => hs.give)
    exact Action.Leads.bind (fun c h => hwhole c h) fun r => ihnext r hcursors

end Sound

/-- An activity in which no step moves handles leaves them as they were. -/
theorem handles_perform {a : Activity} (ha : a.Quiet) (held : Multiset (Handle Memory.engine))
    (cursors : List Memory.Cursor) :
    (a.perform cursors).Leads (·.handles = held) (·.handles = held) := by
  -- what is done past the client does not touch what the client holds
  have hstore : ∀ {α : Type} (act : Action ClientStore α),
      (onStore act).Leads (·.handles = held) (·.handles = held) := fun _ _ h => h
  induction a generalizing cursors with
  | done outcome =>
    intro c h
    rwa [Activity.perform, Action.run_ofExcept]
  | look next ih =>
    intro c h
    rw [Activity.perform, Action.run_bind, Action.run_get]
    exact ih c (ha c) cursors c h
  | step s next ih =>
    obtain ⟨hs, hnext⟩ := ha
    rw [Activity.perform]
    exact Action.Leads.bind (fun c h => (handles_step hs).trans h) fun r => ih r (hnext r) cursors
  | search how plan depth next ih =>
    rw [Activity.perform]
    refine Action.Leads.bind (fun c h => ?_) fun r => ih r (ha r) cursors
    rw [Action.run_ofFun]
    split
    · cases how <;> exact h
    · exact h
  | withCursor e mode body next ihbody ihnext =>
    obtain ⟨hbody, hnext⟩ := ha
    rw [Activity.perform]
    -- what the store gives out here is given back here, and the client never had it
    have hwhole := Engine.withCursor_leads (E := engine.lift onStore) (P := (·.handles = held))
      (hstore (engine.beginTx mode)).acquires
      (fun t => (hstore (engine.openCursor t e)).acquires)
      (fun t k => ihbody hbody (k :: cursors)) (fun t k => hstore (engine.closeCursor k))
      (fun t => hstore (engine.endTx t))
    exact Action.Leads.bind (fun c h => hwhole c h) fun r => ihnext r (hnext r) cursors

/-! ## Whole sessions

Nothing is lent outside of an activity, so between activities what is in custody is what the client
holds. The counters are read off the lists of the store, and custody says whose ids these lists
have. -/

/-- How many builder sessions, plans and cursors the store counts as open. -/
def counters (c : Client) : Nat × Nat × Nat :=
  (c.store.inner.sessions.length, c.store.inner.plans.length, c.store.inner.cursors.length)

/-- What is open is what the client was given by a step of its own and has not given back. -/
structure Balanced (c : Client) : Prop where
  counters_eq : c.counters = (c.builders.held + c.queryBuilders.held, c.plans.held, c.cursors.held)
  unbuilt : ∀ q, some q ∈ c.queries → q.isBuilt = false
  /-- Every handle that was given out was given back once, or is held. -/
  conserves : (c.store.events.flatMap Event.acquired : Multiset (Handle Memory.engine)) =
    c.store.events.filterMap (·.call.released?) + c.handles
  /-- A handle is used, or given back, only while it is held. -/
  accounts : ∃ order : List (Handle Memory.engine), order = c.handles ∧
    Accounts [] c.store.events order
  findsOpen : ∀ ev ∈ c.store.events, ev.FindsOpen

theorem card_filterMap_some {β γ : Type} (f : β → γ) (s : Multiset β) :
    (s.filterMap fun b => some (f b)).card = s.card := by
  have hmap : Multiset.filterMap (fun b => some (f b)) = Multiset.map f :=
    Multiset.filterMap_eq_map f
  rw [hmap, Multiset.card_map]

theorem filterMap_none {β γ : Type} (s : Multiset β) :
    s.filterMap (fun _ => (none : Option γ)) = 0 := by
  induction s using Multiset.induction_on with
  | empty => rfl
  | cons b s ih => rw [Multiset.filterMap_cons_none b s rfl, ih]

/-- The counters count the handles of their sorts. -/
theorem Sound.counters_eq (h : c.Sound 0) :
    c.counters = ((c.handles.filterMap Memory.builderId?).card,
      (c.handles.filterMap Memory.planId?).card,
      (c.handles.filterMap Memory.cursorSerial?).card) := by
  obtain ⟨hsessions, hplans, hcursors⟩ := h.custody.agrees
  rw [Multiset.add_zero] at hsessions hplans hcursors
  rw [← hsessions, ← hplans, ← hcursors]
  simp [counters]

/-- As many handles of each sort are in custody as the client counts as held. -/
theorem card_handles (c : Client) :
    (c.handles.filterMap Memory.builderId?).card = c.builders.held + c.queryBuilders.held ∧
      (c.handles.filterMap Memory.planId?).card = c.plans.held ∧
      (c.handles.filterMap Memory.cursorSerial?).card = c.cursors.held := by
  simp [handles, Multiset.filterMap_add, Multiset.filterMap_map, Function.comp_def,
    Memory.builderId?, Memory.planId?, Memory.cursorSerial?, filterMap_none, card_filterMap_some,
    Handles.card_live]

/-- A sound client that was lent nothing is balanced. -/
theorem Sound.balanced (h : c.Sound 0) : c.Balanced := by
  obtain ⟨order, horder, haccounts⟩ := h.custody.accounts
  rw [Multiset.add_zero] at horder
  obtain ⟨hbuilders, hplans, hcursors⟩ := card_handles c
  refine ⟨?_, fun q hq => ?_, ?_, ⟨order, horder, haccounts⟩, h.custody.findsOpen⟩
  · rw [h.counters_eq, hbuilders, hplans, hcursors]
  · rw [Query.isBuilt, h.unbuilt q hq]
    rfl
  · have hconserves := haccounts.conserves
    rw [Multiset.coe_nil, Multiset.zero_add] at hconserves
    rw [hconserves, horder]

/-- A fresh client holds nothing and nothing is open. -/
theorem sound_new (limit : Option Nat) : (new limit).Sound 0 :=
  ⟨⟨⟨rfl, rfl, rfl⟩, ⟨[], rfl, .nil []⟩, List.forall_mem_nil _⟩, nofun⟩

/-- Activities in a row keep the client sound. -/
theorem sound_afterAll {acts : List Activity} (h : c.Sound 0) : (c.afterAll acts).Sound 0 := by
  induction acts generalizing c with
  | nil => exact h
  | cons a rest ih => exact ih (Sound.perform a (List.forall_mem_nil _) c h)

/-- After any activities on a fresh store, what is open is what the client was given and has not
given back, and an activity in which no step moves handles leaves the counters as they were. -/
theorem afterAll_balanced (limit : Option Nat) (acts : List Activity) :
    let c := (new limit).afterAll acts
    c.Balanced ∧ ∀ a : Activity, a.Quiet → counters ((a.perform []).run c).2 = c.counters := by
  intro c
  have hsound : c.Sound 0 := sound_afterAll (sound_new limit)
  refine ⟨hsound.balanced, fun a ha => ?_⟩
  have hafter : Sound 0 ((a.perform []).run c).2 := Sound.perform a (List.forall_mem_nil _) c hsound
  -- the counters count handles, and the handles are the same
  have hsame : handles ((a.perform []).run c).2 = c.handles := handles_perform ha c.handles [] c rfl
  rw [hafter.counters_eq, hsame, hsound.counters_eq]

/-- A query that fails when its plan is closed leaves nothing behind, inside a failing piece of work
with a cursor. -/
theorem afterAll_balanced_people :
    let people : EntityModel := (EntityModel.new ⟨7⟩ "Person").declare ⟨3⟩ "age" (.integer .uint8)
    let once (s : Step) : Activity := .step s fun r => .done (.ok r)
    let acts : List Activity := [once (.register people), once (.fault "close_query" true),
      once (.openBuilder ⟨7⟩), once (.query ⟨7⟩ (.compare ⟨⟨3⟩, .notNull⟩))]
    let work : Activity := .withCursor ⟨7⟩ .readOnly
      (.step (.findIds 0) fun _ => .done (.error (.execution "given up")))
      fun _ => .done (.ok .done)
    let c := (new none).afterAll acts
    work.Quiet ∧ c.Balanced ∧ c.counters = (1, 0, 0) ∧
      counters ((work.perform []).run c).2 = c.counters := by
  intro people once acts work c
  have hquiet : work.Quiet := ⟨⟨rfl, fun _ => trivial⟩, fun _ => trivial⟩
  obtain ⟨hbalanced, hkept⟩ := afterAll_balanced none acts
  exact ⟨hquiet, hbalanced, rfl, hkept work hquiet⟩

end Client

end EntityQuery
