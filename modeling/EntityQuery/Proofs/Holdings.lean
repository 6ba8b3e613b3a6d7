import EntityQuery.Activity
import EntityQuery.Proofs.Custody
import EntityQuery.Proofs.Forwarding
import EntityQuery.Proofs.Writes
import Mathlib.Data.List.ReduceOption

/-!
# What a client holds

A client keeps the handles that its steps are given and empties their places when it gives them
back. Each of its steps leaves custody with the handles that it then holds (`Client.Sound.step`).

* `Client.handles` collects the handles of the five sorts, and `Client.handles_of_builder` and its
  companions take one of them out.
* `Client.Sound` ties these handles to custody, besides those that are borrowed from around a step.
* `Client.Sound.keep` and `Client.Sound.giveBack` are the steps that move handles, and
  `Client.Sound.onQuery` is a call of a query, which moves none.
-/

namespace EntityQuery

namespace Handles

variable {α : Type} {hs : Handles α} {n : HandleNumber} {a : α}

/-- The handles of one sort that were not given back, without their numbers. -/
def live (hs : Handles α) : Multiset α :=
  hs.reduceOption

/-- As many handles are live as are counted as held. -/
theorem card_live : hs.live.card = hs.held :=
  List.reduceOption_length_eq

/-- A handle in its place is one more than the same list with the place empty. -/
theorem live_middle (before after : List (Option α)) (a : α) :
    live (before ++ some a :: after) = a ::ₘ live (before ++ none :: after) := by
  simp only [live, List.reduceOption_append, List.reduceOption_cons_of_some,
    List.reduceOption_cons_of_none]
  exact Multiset.coe_eq_coe.mpr List.perm_middle

/-- A handle that is kept is live besides those that were. -/
theorem live_add : (hs.add a).live = a ::ₘ hs.live := by
  have hmiddle := live_middle hs [] a
  rw [add, hmiddle]
  simp [live, List.reduceOption_append]

theorem mem_of_at? (h : hs.at? n = some a) : some a ∈ hs :=
  List.mem_of_getElem? (Option.join_eq_some_iff.mp h)

/-- The list around the place of a number, and what setting the place does to it. -/
theorem split_of_at? (h : hs.at? n = some a) :
    ∃ before after, hs = before ++ some a :: after ∧ ∀ x, hs.set n x = before ++ x :: after := by
  obtain ⟨hlt, hget⟩ := List.getElem?_eq_some_iff.mp (Option.join_eq_some_iff.mp h)
  refine ⟨hs.take n, hs.drop (n + 1), ?_, fun x => ?_⟩
  · rw [← hget, List.getElem_cons_drop, List.take_append_drop]
  · rw [List.set_eq_take_append_cons_drop, if_pos hlt]

/-- A handle that is found under a number is live, besides what is left when its place is emptied.
-/
theorem live_of_at? (h : hs.at? n = some a) : hs.live = a ::ₘ Handles.live (hs.set n none) := by
  obtain ⟨before, after, hsplit, hset⟩ := split_of_at? h
  rw [hset none, hsplit]
  exact live_middle before after a

/-- A handle that changes its state keeps its place. -/
theorem live_set_some (h : hs.at? n = some a) (b : α) :
    Handles.live (hs.set n (some b)) = b ::ₘ Handles.live (hs.set n none) := by
  obtain ⟨before, after, -, hset⟩ := split_of_at? h
  rw [hset none, hset (some b)]
  exact live_middle before after b

end Handles

/-- What the store lists as open. -/
def Memory.opens (m : Memory) : List Session × List UInt64 × List Nat :=
  (m.sessions, m.plans, m.cursors)

/-- A write opens and closes nothing. -/
theorem Memory.Writes.opens_eq {m m' : Memory} (h : m.Writes m') : m'.opens = m.opens := by
  cases h <;> rfl

namespace Client

/-- The handles that a client was given by its own steps and has not given back. -/
def handles (c : Client) : Multiset (Handle Memory.engine) :=
  c.builders.live.map (fun b => .builder b) +
    c.queryBuilders.live.map (fun b => .builder b.handle) +
    c.plans.live.map (fun p => .plan p) + c.txs.live.map (fun t => .tx t) +
    c.cursors.live.map (fun k => .cursor k)

/-- What is given out is in the hands of the client, but for some handles that were borrowed, and no
query holds a plan. -/
structure Sound (borrowed : Multiset (Handle Memory.engine)) (c : Client) : Prop where
  custody : Custody (c.handles + borrowed) c.store
  unbuilt : ∀ q, some q ∈ c.queries → q.plan? = none

variable {α : Type} {borrowed : Multiset (Handle Memory.engine)} {c c' : Client}

/-! ### Handles that come and go

The handles of a client are those of its five sorts. A step that is given one adds it to its sort,
and a step that gives one back empties its place; either way the others stay. -/

/-- A builder session that is kept is one more handle. -/
theorem handles_addBuilder (b : Memory.Builder) :
    handles { c with builders := c.builders.add b } = .builder b ::ₘ c.handles := by
  simp [handles, Handles.live_add]

theorem handles_addQueryBuilder (b : QueryBuilder Memory.Builder) :
    handles { c with queryBuilders := c.queryBuilders.add b } =
      .builder b.handle ::ₘ c.handles := by
  simp [handles, Handles.live_add]

theorem handles_addPlan (p : Memory.Plan) :
    handles { c with plans := c.plans.add p } = .plan p ::ₘ c.handles := by
  simp [handles, Handles.live_add]

theorem handles_addTx (t : Memory.Tx) :
    handles { c with txs := c.txs.add t } = .tx t ::ₘ c.handles := by
  simp [handles, Handles.live_add]

theorem handles_addCursor (k : Memory.Cursor) :
    handles { c with cursors := c.cursors.add k } = .cursor k ::ₘ c.handles := by
  simp [handles, Handles.live_add]

variable {n : HandleNumber}

/-- A builder session that is held is a handle, besides those that are left without it. -/
theorem handles_of_builder {b : Memory.Builder} (h : c.builders.at? n = some b) :
    c.handles = .builder b ::ₘ handles { c with builders := c.builders.set n none } := by
  simp [handles, Handles.live_of_at? h]

/-- The session of a query builder that is held is a handle, besides those that are left. -/
theorem handles_of_queryBuilder {b : QueryBuilder Memory.Builder}
    (h : c.queryBuilders.at? n = some b) :
    c.handles = .builder b.handle ::ₘ
      handles { c with queryBuilders := c.queryBuilders.set n none } := by
  simp [handles, Handles.live_of_at? h]

/-- A plan that is held is a handle, besides those that are left without it. -/
theorem handles_of_plan {p : Memory.Plan} (h : c.plans.at? n = some p) :
    c.handles = .plan p ::ₘ handles { c with plans := c.plans.set n none } := by
  simp [handles, Handles.live_of_at? h]

/-- A transaction that is held is a handle, besides those that are left without it. -/
theorem handles_of_tx {t : Memory.Tx} (h : c.txs.at? n = some t) :
    c.handles = .tx t ::ₘ handles { c with txs := c.txs.set n none } := by
  simp [handles, Handles.live_of_at? h]

/-- A cursor that is held is a handle, besides those that are left without it. -/
theorem handles_of_cursor {k : Memory.Cursor} (h : c.cursors.at? n = some k) :
    c.handles = .cursor k ::ₘ handles { c with cursors := c.cursors.set n none } := by
  simp [handles, Handles.live_of_at? h]

/-- A query builder that counts on keeps its session, so the handles are the same. -/
theorem handles_setQueryBuilder {b : QueryBuilder Memory.Builder} {r : Nat}
    (h : c.queryBuilders.at? n = some b) :
    handles { c with queryBuilders := c.queryBuilders.set n (some { b with registered := r }) } =
      c.handles := by
  simp [handles, Handles.live_of_at? h, Handles.live_set_some h]

/-- A step that names a handle does nothing if the handle is not held. -/
theorem withHandle_induct {P : Client → Prop} {β : Type} {hs : Handles β}
    {use : β → Reply × Client} (hnone : P c) (huse : ∀ b, hs.at? n = some b → P (use b).2) :
    P (c.withHandle hs n use).2 := by
  unfold withHandle
  split
  · rename_i b hb
    exact huse b hb
  · exact hnone

/-! ### Parts of steps

Every step is one of a few kinds: it asks something of the store, it is given a handle, it gives one
back, or it works on the store past the spy. What each of these does to a sound client is said once,
with the call itself as a parameter. -/

namespace Sound

variable {x : Handle Memory.engine}

/-- The store may become any that the handles are still in custody with. -/
theorem withStore (h : c.Sound borrowed) {s : ClientStore}
    (hs : Custody (c.handles + borrowed) s) : Sound borrowed { c with store := s } :=
  ⟨hs, h.unbuilt⟩

/-- A step that answers with what an action says is sound if the action changes nothing in custody.
-/
theorem answer (h : c.Sound borrowed) {act : Action ClientStore α}
    (hact : act.Leads (Custody (c.handles + borrowed)) (Custody (c.handles + borrowed)))
    (f : α → Reply) : (c.answer act f).2.Sound borrowed :=
  h.withStore (hact _ h.custody)

/-- The client keeps what it was given. -/
theorem takes (h : c.Sound borrowed) (hs : Custody (x ::ₘ (c.handles + borrowed)) c'.store)
    (hhandles : c'.handles = x ::ₘ c.handles) (hqueries : c'.queries = c.queries) :
    c'.Sound borrowed := by
  refine ⟨?_, hqueries ▸ h.unbuilt⟩
  rwa [hhandles, Multiset.cons_add]

theorem gives (h : c.Sound borrowed) (hhandles : c.handles = x ::ₘ c'.handles)
    (hstore : c'.store = c.store) (hqueries : c'.queries = c.queries)
    {act : Action ClientStore Unit}
    (hact : act.Leads (Custody (x ::ₘ (c'.handles + borrowed))) (Custody (c'.handles + borrowed)))
    (f : Unit → Reply) : (c'.answer act f).2.Sound borrowed := by
  -- seen from the client that gave it up, the handle is the one in custody that it does not hold
  have hcustody : Custody (x ::ₘ (c'.handles + borrowed)) c'.store := by
    rw [hstore, ← Multiset.cons_add, ← hhandles]
    exact h.custody
  exact ⟨hact _ hcustody, hqueries ▸ h.unbuilt⟩

/-- Work on the store past the spy that opens and closes nothing. -/
theorem onMemory (h : c.Sound borrowed) {act : Action Memory α} (f : α → Reply)
    (hact : (act.run c.store.inner).2.opens = c.store.inner.opens) :
    (c.onMemory act f).2.Sound borrowed := by
  obtain ⟨hsessions, hplans, hcursors⟩ := h.custody.agrees
  have hopens := hact
  simp only [Memory.opens, Prod.mk.injEq] at hopens
  obtain ⟨hs, hp, hk⟩ := hopens
  exact h.withStore ⟨⟨hs ▸ hsessions, hp ▸ hplans, hk ▸ hcursors⟩, h.custody.accounts,
    h.custody.findsOpen⟩

section

variable {β : Type} {hs : Handles β}

/-- A step that names a handle only has to be looked at where the handle is held. -/
theorem withHandle (h : c.Sound borrowed) {use : β → Reply × Client}
    (huse : ∀ b, hs.at? n = some b → (use b).2.Sound borrowed) :
    (c.withHandle hs n use).2.Sound borrowed :=
  withHandle_induct h huse

/-- A step that uses a handle and answers is sound if the action changes nothing in custody. -/
theorem answerWith (h : c.Sound borrowed) {act : β → Action ClientStore α}
    (hact : ∀ b, hs.at? n = some b →
      (act b).Leads (Custody (c.handles + borrowed)) (Custody (c.handles + borrowed)))
    (f : α → Reply) : (c.withHandle hs n fun b => c.answer (act b) f).2.Sound borrowed :=
  h.withHandle fun b hb => h.answer (hact b hb) f

/-- A step that gives a handle back is sound if the handle leaves the client and custody alike. -/
theorem giveBack {act : β → Action ClientStore Unit} {x : β → Handle Memory.engine}
    (h : c.Sound borrowed) (hhandles : ∀ b, hs.at? n = some b → c.handles = x b ::ₘ c'.handles)
    (hstore : c'.store = c.store) (hqueries : c'.queries = c.queries)
    (hact : ∀ b, (act b).Leads (Custody (x b ::ₘ (c'.handles + borrowed)))
      (Custody (c'.handles + borrowed))) (f : Unit → Reply) :
    (c.withHandle hs n fun b => c'.answer (act b) f).2.Sound borrowed :=
  h.withHandle fun b hb => h.gives (hhandles b hb) hstore hqueries (hact b) f

end

/-- A call that gives out a handle, which the client keeps. -/
theorem keep (h : c.Sound borrowed) {act : Action ClientStore α} {x : α → Handle Memory.engine}
    (hact : act.Acquires (Custody (c.handles + borrowed))
      fun a => Custody (x a ::ₘ (c.handles + borrowed)))
    {keeping : Client → α → Reply × Client}
    (hkeeping : ∀ c a, (keeping c a).2.handles = x a ::ₘ c.handles ∧
      (keeping c a).2.store = c.store ∧ (keeping c a).2.queries = c.queries) :
    (keep keeping (c.run act)).2.Sound borrowed := by
  have hgiven := hact c.store h.custody
  unfold Client.run
  generalize act.run c.store = r at hgiven ⊢
  rcases r with ⟨e | a, s⟩
  · exact h.withStore hgiven
  · obtain ⟨hhandles, hstore, hqueries⟩ := hkeeping { c with store := s } a
    exact h.takes (hstore ▸ hgiven) hhandles hqueries

theorem mem_held {rest : Multiset (Handle Memory.engine)} (hx : c.handles = x ::ₘ rest) :
    x ∈ c.handles + borrowed := by
  rw [hx, Multiset.cons_add]
  exact Multiset.mem_cons_self x _

/-- A step that uses a plan and a cursor is sound if the action changes nothing in custody. -/
theorem usePlan (h : c.Sound borrowed) {m : HandleNumber}
    {act : Memory.Plan → Memory.Cursor → Action ClientStore α}
    (hact : ∀ p k, .plan p ∈ c.handles + borrowed → .cursor k ∈ c.handles + borrowed →
      (act p k).Leads (Custody (c.handles + borrowed)) (Custody (c.handles + borrowed)))
    (f : α → Reply) : (c.usePlan n m act f).2.Sound borrowed :=
  h.withHandle fun p hp => h.answerWith (fun k hk =>
    hact p k (mem_held (handles_of_plan hp)) (mem_held (handles_of_cursor hk))) f

/-! ### Queries

A query that a client holds has no plan between its calls, so its calls run as they do without a
slot, and those give back all that they take. -/

/-- Queries stay without a plan when one of them is replaced by one without. -/
theorem unbuilt_set (h : c.Sound borrowed) {q : Option (Query Memory.Plan)}
    (hq : ∀ q', q = some q' → q'.plan? = none) :
    ∀ q', some q' ∈ c.queries.set n q → q'.plan? = none := by
  intro q' hmem
  rcases List.mem_or_eq_of_mem_set hmem with hold | hnew
  · exact h.unbuilt q' hold
  · exact hq q' hnew.symm

/-- A call of a query that is held is sound, and leaves the query without a plan. -/
theorem onQuery (h : c.Sound borrowed) {call : Action (ClientStore × Query Memory.Plan) α}
    {act : EntityId → Condition → Action ClientStore α}
    (hcall : ∀ e cond, Query.KeepsQuery engine e cond call (act e cond))
    (hact : ∀ e cond, (act e cond).Leads (Custody (c.handles + borrowed))
      (Custody (c.handles + borrowed)))
    (f : α → Reply) : (c.onQuery n call f).2.Sound borrowed := by
  refine h.withHandle fun q hq => ?_
  obtain ⟨e, cond, plan?⟩ := q
  obtain rfl : plan? = none := h.unbuilt _ (Handles.mem_of_at? hq)
  -- the call runs like the one without a plan slot, and leaves the query as it was
  have hrun : call.run (c.store, (⟨e, cond, none⟩ : Query Memory.Plan)) = _ := hcall e cond c.store
  rw [hrun]
  refine ⟨hact e cond _ h.custody, h.unbuilt_set ?_⟩
  rintro _ ⟨⟩
  rfl

/-! ### Query builders

A query builder forwards its calls to its session and changes nothing but its own counter. So its
calls are those of a builder session, with the counter as the only thing to be put back into its
place. -/

/-- A call of a query builder is a call of its session. -/
theorem onQueryBuilder (h : c.Sound borrowed)
    {call : Action (ClientStore × QueryBuilder Memory.Builder) α}
    {act : Memory.Builder → Action ClientStore α}
    (hcall : QueryBuilder.Forwards (E := engine) call act)
    {continuing : Except Error α × Client → Reply × Client}
    (hact : ∀ (c : Client) b, c.Sound borrowed → .builder b ∈ c.handles + borrowed →
      (continuing (c.run (act b))).2.Sound borrowed) :
    (c.onQueryBuilder n call continuing).2.Sound borrowed := by
  refine h.withHandle fun b hb => ?_
  obtain ⟨r, hforward⟩ := hcall c.store b
  have hrun : call.run (c.store, b) = (((act b.handle).run c.store).1,
      ((act b.handle).run c.store).2, { b with registered := r }) :=
    hforward
  rw [hrun]
  -- the builder keeps its handle and counts what it has registered
  have hhandles := handles_setQueryBuilder (r := r) hb
  refine hact { c with queryBuilders := c.queryBuilders.set n (some { b with registered := r }) }
    b.handle ⟨?_, h.unbuilt⟩ ?_
  · rw [hhandles]
    exact h.custody
  · rw [hhandles]
    exact mem_held (handles_of_queryBuilder hb)

/-- A call of a query builder that answers is sound if the call of its session changes nothing in
custody. -/
theorem answerQueryBuilder (h : c.Sound borrowed)
    {call : Action (ClientStore × QueryBuilder Memory.Builder) α}
    {act : Memory.Builder → Action ClientStore α}
    (hcall : QueryBuilder.Forwards (E := engine) call act)
    (hact : ∀ held b, .builder b ∈ held → (act b).Leads (Custody held) (Custody held))
    (f : α → Reply) : (c.answerQueryBuilder n call f).2.Sound borrowed :=
  h.onQueryBuilder hcall fun _ b h hb => h.answer (hact _ b hb) f

/-! ### Steps

Each step by its kind. The lemmas above ask for the call of the engine, and for the fact that the
handle it is made with is held, which is what the client looked up by number. -/

theorem opens_putRows (e : EntityId) (rows : List PropertyMap)
    (start : List (Except Error ObjectId) × Memory) :
    (rows.foldl (putRow e) start).2.opens = start.2.opens := by
  induction rows generalizing start with
  | nil => rfl
  | cons row rest ih =>
    rw [List.foldl_cons, ih]
    exact (Memory.writes_put start.2 e row).opens_eq

/-- Work with a cursor is sound, whatever is done with the cursor. -/
theorem withCursor (h : c.Sound borrowed) (e : EntityId) (mode : TxMode) (use : CursorUse) :
    (c.step (.withCursor e mode use)).2.Sound borrowed := by
  refine h.answer (Custody.withCursor fun t k => ?_) id
  cases use with
  | fail err => exact fun s hs => hs
  | look => exact fun s hs => hs
  | findIds n =>
    cases hp : c.plans.at? n with
    | none =>
      simp only [cursorAction, hp]
      exact fun s hs => hs
    | some p =>
      have hplan : .plan p ∈ .cursor k ::ₘ .tx t ::ₘ (c.handles + borrowed) := by
        simp [mem_held (handles_of_plan hp)]
      simp only [cursorAction, hp]
      exact (Custody.findIds hplan (Multiset.mem_cons_self _ _)).bind fun ids s hs => hs

theorem remember (h : c.Sound borrowed) (e : EntityId) (condition : Condition) :
    (c.step (.query e condition)).2.Sound borrowed := by
  refine ⟨h.custody, fun q hq => ?_⟩
  rcases List.mem_append.mp hq with hold | hnew
  · exact h.unbuilt q hold
  · obtain rfl := Option.some.inj (List.mem_singleton.mp hnew)
    rfl

theorem forget (h : c.Sound borrowed) (n : HandleNumber) :
    (c.step (.dropQuery n)).2.Sound borrowed := by
  -- a query without a plan has nothing to give back
  have hkeeps : ∀ e cond, Query.KeepsQuery engine e cond (Query.discard engine) (pure ()) :=
    fun _ _ _ => rfl
  have hdropped := h.onQuery (n := n) hkeeps (fun _ _ _ hs => hs) fun _ => .done
  exact ⟨hdropped.custody, hdropped.unbuilt_set nofun⟩

/-- Two calls of a query in a row are sound. -/
theorem ask (h : c.Sound borrowed) (e : EntityId) (condition : Condition) :
    (c.step (.ask e condition)).2.Sound borrowed := by
  have hdescribe := Custody.useDescribe e condition c.store h.custody
  have hfindIds := Custody.useFindIds e condition _ hdescribe
  have hrun : ∀ s, (Query.describe engine).run (s, ⟨e, condition, none⟩) = _ :=
    Query.run_describe engine e condition
  have hrun' : ∀ s, (Query.findIds engine).run (s, ⟨e, condition, none⟩) = _ :=
    Query.run_findIds engine e condition
  simp only [Client.step, hrun, hrun']
  exact h.withStore hfindIds

/-- Every step leaves nothing open but what the client holds. -/
theorem step (h : c.Sound borrowed) (s : Step) : (c.step s).2.Sound borrowed := by
  cases s with
  | register model => exact h.onMemory _ rfl
  | putAll e rows => exact h.onMemory _ (opens_putRows e rows _)
  | put e properties => exact h.onMemory _ (Memory.writes_put _ e properties).opens_eq
  | remove e o => exact h.onMemory _ (Memory.writes_remove _ e o).opens_eq
  | model | get | limit => exact h
  | fault name on =>
    exact h.withStore ⟨h.custody.agrees, h.custody.accounts, h.custody.findsOpen⟩
  | query e condition => exact h.remember e condition
  | setCondition n condition =>
    refine h.withHandle fun q hq => ⟨h.custody, h.unbuilt_set ?_⟩
    rintro _ ⟨⟩
    exact h.unbuilt q (Handles.mem_of_at? hq)
  | dropQuery n => exact h.forget n
  | info n => exact h.withHandle fun _ _ => h
  | find n reads =>
    exact h.onQuery (fun e cond => Query.run_find engine e cond (Found.decode reads))
      (fun e cond => Custody.useFind (Found.decode reads) e cond) _
  | findIds n =>
    exact h.onQuery (Query.run_findIds engine) Custody.useFindIds _
  | count n => exact h.onQuery (Query.run_count engine) Custody.useCount _
  | describe n => exact h.onQuery (Query.run_describe engine) Custody.useDescribe _
  | ask e condition => exact h.ask e condition
  | openBuilder e =>
    exact h.keep (Custody.newBuilder e) fun c b => ⟨handles_addBuilder b, rfl, rfl⟩
  | applyTo n c' =>
    exact h.answerWith
      (fun b hb => Custody.register c'.primitive (mem_held (handles_of_builder hb))) _
  | combineIn n j ids =>
    exact h.answerWith (fun b hb => Custody.combine j ids (mem_held (handles_of_builder hb))) _
  | compile n =>
    refine h.withHandle fun b hb => ?_
    exact h.keep (Custody.compile (mem_held (handles_of_builder hb))) fun c p =>
      ⟨handles_addPlan p, rfl, rfl⟩
  | closeBuilder n =>
    exact h.giveBack (fun _ => handles_of_builder) rfl rfl (fun _ _ hs => hs.give) _
  | openQueryBuilder e =>
    have hopen : (QueryBuilder.acquire engine e).Acquires (Custody (c.handles + borrowed))
        fun b => Custody (.builder b.handle ::ₘ (c.handles + borrowed)) :=
      Action.Acquires.map (f := fun b => (⟨e, b, 0⟩ : QueryBuilder Memory.Builder))
        (Custody.newBuilder e)
    exact h.keep hopen fun c b => ⟨handles_addQueryBuilder b, rfl, rfl⟩
  | builderInfo n => exact h.withHandle fun _ _ => h
  | registerIn n c' =>
    exact h.answerQueryBuilder (QueryBuilder.forwards_apply c')
      (fun _ _ => Custody.register c'.primitive) _
  | registerAll n condition =>
    exact h.answerQueryBuilder (QueryBuilder.forwards_registerIn condition)
      (fun _ _ => Custody.registerIn condition) _
  | join n j ids =>
    exact h.answerQueryBuilder (QueryBuilder.forwards_combine j ids)
      (fun _ _ => Custody.combine j ids) _
  | compileIn n =>
    refine h.onQueryBuilder QueryBuilder.forwards_compile fun c b h hb => ?_
    exact h.keep (Custody.compile hb) fun c p => ⟨handles_addPlan p, rfl, rfl⟩
  | closeQueryBuilder n =>
    exact h.giveBack (fun _ => handles_of_queryBuilder) rfl rfl (fun _ _ hs => hs.give) _
  | dropQueryBuilder n =>
    have hdiscard : ∀ held b, (QueryBuilder.discard engine b).Leads
        (Custody (.builder b.handle ::ₘ held)) (Custody held) :=
      fun _ _ _ hs => hs.give
    exact h.giveBack (fun _ => handles_of_queryBuilder) rfl rfl (hdiscard _) _
  | planFind n m => exact h.usePlan (fun p k hp hk => Custody.find hp hk) _
  | planFindIds n m => exact h.usePlan (fun p k hp hk => Custody.findIds hp hk) _
  | planCount n m => exact h.usePlan (fun p k hp hk => Custody.count hp hk) _
  | planDescribe n =>
    exact h.answerWith (fun p hp => Custody.describe (mem_held (handles_of_plan hp))) _
  | closePlan n =>
    exact h.giveBack (fun _ => handles_of_plan) rfl rfl (fun _ _ hs => hs.give) _
  | beginTx mode =>
    exact h.keep (Custody.beginTx mode) fun c t => ⟨handles_addTx t, rfl, rfl⟩
  | endTx n =>
    exact h.giveBack (fun _ => handles_of_tx) rfl rfl (fun _ _ hs => hs.give) _
  | openCursor n e =>
    refine h.withHandle fun t ht => ?_
    exact h.keep (Custody.openCursor e (mem_held (handles_of_tx ht))) fun c k =>
      ⟨handles_addCursor k, rfl, rfl⟩
  | closeCursor n =>
    exact h.giveBack (fun _ => handles_of_cursor) rfl rfl (fun _ _ hs => hs.give) _
  | withCursor e mode use => exact h.withCursor e mode use

end Sound

end Client

end EntityQuery
