import EntityQuery.Proofs.Observed
import EntityQuery.QueryBuilder

/-!
# Registering a condition walks its tree

Whatever an engine answers, registering a condition calls the session once for each node, children
before their junction and from left to right, and stops at the first call that fails
(`QueryBuilder.registerIn_walks`).

* `Walked` says which calls a walk over a condition makes, what each of them carries, and how the
  walk ends.
* `Registrar.Notes.walked` says that registering is such a walk, for any registrar whose calls are
  noted as calls of a session.
* `Walked.tasks_begin` and `Walked.last` lay a walk out flat: it is the beginning of the post-order
  of the tree, and only its last call may have failed.
-/

namespace EntityQuery

variable {σ τ : Type} {E : Engine σ}

namespace Event

/-- The call was answered without an error. -/
def succeeded (ev : Event E) : Bool :=
  (failure? ev.outcome).isNone

/-- A call that asks a session for the id of a comparison or of a junction, and its answer. -/
inductive Asks (b : E.Builder) : Event E → Except Error ConditionId → Prop where
  | register (p : Primitive) (outcome : Except Error ConditionId) :
    Asks b ⟨.register b p, outcome⟩ outcome
  | combine (j : Junction) (ids : List ConditionId) (outcome : Except Error ConditionId) :
    Asks b ⟨.combine b j ids, outcome⟩ outcome

theorem Asks.succeeded_of_ok {b : E.Builder} {ev : Event E} {id : ConditionId}
    (h : ev.Asks b (.ok id)) : ev.succeeded = true := by
  cases h <;> rfl

end Event

/-- A condition that was registered to the end, with the calls that this took and the id that its
root was given. -/
structure Placed (E : Engine σ) where
  condition : Condition
  events : List (Event E)
  id : ConditionId

/-- The calls that a walk over a condition makes in a session, and how the walk ends. -/
inductive Walked (b : E.Builder) :
    Condition → List (Event E) → Except Error ConditionId → Prop where
  /-- The primitive carries the comparison: its property, operator, operands and flags. -/
  | leaf (c : Comparison) (p : Primitive) (outcome : Except Error ConditionId)
    (hp : p.comparison = c) : Walked b (.compare c) [⟨.register b p, outcome⟩] outcome
  /-- Every child was placed, so the junction is made of the ids that the children were given. -/
  | combined (done : List (Placed E)) (j : Junction) (outcome : Except Error ConditionId)
    (hdone : ∀ p ∈ done, Walked b p.condition p.events (.ok p.id)) :
    Walked b (.join j (done.map (·.condition)))
      (done.flatMap (·.events) ++ [⟨.combine b j (done.map (·.id)), outcome⟩]) outcome
  /-- A child failed, so neither the children after it nor the junction are asked for. -/
  | stopped {c : Condition} {evs : List (Event E)} {e : Error} (done : List (Placed E))
    (j : Junction) (rest : List Condition)
    (hdone : ∀ p ∈ done, Walked b p.condition p.events (.ok p.id))
    (hfailed : Walked b c evs (.error e)) :
    Walked b (.join j (done.map (·.condition) ++ c :: rest)) (done.flatMap (·.events) ++ evs)
      (.error e)

/-! ## Registering is a walk

The engine and the query builder note their calls in different ways, so what is needed of the notes
is a hypothesis here: nothing is noted between a state and itself, notes are put together, and each
of the two calls of a session is noted as one event. From that, registering is a walk, by induction
on the condition. -/

/-- The registrar's calls are noted as calls of a session. What is noted between two states can be
put together. -/
structure Registrar.Notes (r : Registrar τ) (b : E.Builder)
    (Between : τ → List (Event E) → τ → Prop) : Prop where
  nil : ∀ t, Between t [] t
  append : ∀ {t t' t'' evs evs'}, Between t evs t' → Between t' evs' t'' →
    Between t (evs ++ evs') t''
  register : ∀ p t, Between t [⟨.register b p, ((r.register p).run t).1⟩] ((r.register p).run t).2
  combine : ∀ j ids t,
    Between t [⟨.combine b j ids, ((r.combine j ids).run t).1⟩] ((r.combine j ids).run t).2

namespace Registrar.Notes

variable {r : Registrar τ} {b : E.Builder} {Between : τ → List (Event E) → τ → Prop}

/-- The walk over some conditions places all of them, or those before the first that fails. -/
theorem walked_list (h : r.Notes b Between) {cs : List Condition}
    (hcs : ∀ c ∈ cs, ∀ t, ∃ evs, Between t evs ((c.registerIn r).run t).2 ∧
      Walked b c evs ((c.registerIn r).run t).1) (t : τ) :
    ∃ done : List (Placed E), (∀ p ∈ done, Walked b p.condition p.events (.ok p.id)) ∧
      ((cs = done.map (·.condition) ∧
          ((Condition.registerList r cs).run t).1 = .ok (done.map (·.id)) ∧
          Between t (done.flatMap (·.events)) ((Condition.registerList r cs).run t).2) ∨
        ∃ c rest evs e, cs = done.map (·.condition) ++ c :: rest ∧
          ((Condition.registerList r cs).run t).1 = .error e ∧ Walked b c evs (.error e) ∧
          Between t (done.flatMap (·.events) ++ evs) ((Condition.registerList r cs).run t).2) := by
  induction cs generalizing t with
  | nil => exact ⟨[], List.forall_mem_nil _, .inl ⟨rfl, rfl, h.nil t⟩⟩
  | cons c rest ih =>
    obtain ⟨hc, hrest⟩ := List.forall_mem_cons.mp hcs
    obtain ⟨evs, hbetween, hwalked⟩ := hc t
    rw [Condition.registerList, Action.run_bind]
    generalize (c.registerIn r).run t = ran at hbetween hwalked ⊢
    obtain ⟨e | id, t'⟩ := ran
    · exact ⟨[], List.forall_mem_nil _, .inr ⟨c, rest, evs, e, rfl, rfl, hwalked, hbetween⟩⟩
    · -- the head is placed before whatever is placed of the rest
      obtain ⟨done, hdone, hends⟩ := ih hrest t'
      refine ⟨⟨c, evs, id⟩ :: done, List.forall_mem_cons.mpr ⟨hwalked, hdone⟩, ?_⟩
      simp only [Action.run_bind]
      generalize (Condition.registerList r rest).run t' = ran at hends ⊢
      obtain ⟨outcome, t''⟩ := ran
      rcases hends with ⟨rfl, rfl, hafter⟩ | ⟨d, others, evs', e, rfl, rfl, hfailed, hafter⟩
      · exact .inl ⟨rfl, rfl, h.append hbetween hafter⟩
      · refine .inr ⟨d, others, evs', e, rfl, rfl, hfailed, ?_⟩
        rw [List.flatMap_cons, List.append_assoc]
        exact h.append hbetween hafter

/-- Registering a condition is a walk over it. -/
theorem walked (h : r.Notes b Between) (c : Condition) (t : τ) :
    ∃ evs, Between t evs ((c.registerIn r).run t).2 ∧
      Walked b c evs ((c.registerIn r).run t).1 := by
  induction c generalizing t with
  | compare c => exact ⟨_, h.register c.primitive t, .leaf c _ _ c.comparison_primitive⟩
  | join j children ih =>
    -- the children come first; whether the junction is asked for depends on how they ended
    obtain ⟨done, hdone, hends⟩ := h.walked_list ih t
    rw [Condition.registerIn, Action.run_bind]
    generalize (Condition.registerList r children).run t = ran at hends ⊢
    obtain ⟨outcome, t'⟩ := ran
    rcases hends with ⟨rfl, rfl, hbetween⟩ | ⟨c, rest, evs, e, rfl, rfl, hfailed, hbetween⟩
    · exact ⟨_, h.append hbetween (h.combine j _ t'), .combined done j _ hdone⟩
    · exact ⟨_, hbetween, .stopped done j rest hdone hfailed⟩

end Registrar.Notes

/-- A session of a recorded engine notes its calls in the engine's journal. -/
theorem notes_spied (b : E.Builder) : (E.spied.registrar b).Notes b (Follows (E := E)) where
  nil := .refl
  append := .trans
  register p s := .single (.register b p) s
  combine j ids s := .single (.combine b j ids) s

/-! ## Walks laid out flat

A walk that goes through makes the calls of the tree's post-order, each node once. A walk that fails
stops inside that order, and the call it stops at is the one that failed. -/

namespace Condition

/-- The post-order of two lists of conditions is that of the one before that of the other. -/
theorem tasksList_append (cs ds : List Condition) :
    tasksList (cs ++ ds) = tasksList cs ++ tasksList ds := by
  induction cs with
  | nil => rfl
  | cons c rest ih => rw [List.cons_append, tasksList, ih, tasksList, List.append_assoc]

end Condition

/-- The comparison that a task asks the id of, if it is not a junction. -/
def Task.leaf? : Task → Option Comparison
  | register c => some c
  | _ => none

namespace Condition

/-- The comparisons among the tasks of a list are its leaves, if this holds for each of its
conditions. -/
theorem leaves_of_tasksList {cs : List Condition}
    (h : ∀ c ∈ cs, c.tasks.filterMap Task.leaf? = c.leaves) :
    (tasksList cs).filterMap Task.leaf? = leavesList cs := by
  induction cs with
  | nil => rfl
  | cons c rest ih =>
    obtain ⟨hc, hrest⟩ := List.forall_mem_cons.mp h
    rw [tasksList, List.filterMap_append, hc, ih hrest, leavesList]

/-- One task of each comparison of the condition, in order; the other tasks are junctions. -/
theorem leaves_of_tasks (c : Condition) : c.tasks.filterMap Task.leaf? = c.leaves := by
  induction c with
  | compare c => rfl
  | join j children ih =>
    rw [tasks, List.filterMap_append, leaves_of_tasksList ih, leaves]
    exact List.append_nil _

end Condition

namespace Walked

variable {b : E.Builder} {c : Condition} {evs : List (Event E)}
  {outcome : Except Error ConditionId}

/-- Conditions that were walked to the end made all the calls of their post-order. -/
theorem tasks_done {done : List (Placed E)}
    (h : ∀ p ∈ done, p.events.map (·.call.task) = p.condition.tasks) :
    (done.flatMap (·.events)).map (·.call.task) =
      Condition.tasksList (done.map (·.condition)) := by
  induction done with
  | nil => rfl
  | cons p done ih =>
    obtain ⟨hp, hdone⟩ := List.forall_mem_cons.mp h
    rw [List.flatMap_cons, List.map_append, hp, ih hdone]
    rfl

/-- A walk begins the post-order of the tree, and goes through it if it does not fail. -/
theorem tasks_begin (h : Walked b c evs outcome) :
    evs.map (·.call.task) <+: c.tasks ∧
      ∀ id, outcome = .ok id → evs.map (·.call.task) = c.tasks := by
  induction h with
  | leaf c p outcome hp =>
    subst hp
    exact ⟨List.prefix_refl _, fun _ _ => rfl⟩
  | combined done j outcome _ ih =>
    rw [List.map_append, tasks_done fun p hp => (ih p hp).2 p.id rfl]
    exact ⟨List.prefix_refl _, fun _ _ => rfl⟩
  | stopped done j rest _ _ ih ihfailed =>
    refine ⟨?_, fun id h => by cases h⟩
    -- the children that were placed are walked whole, so the walk stops inside the child that
    -- failed
    rw [List.map_append, tasks_done fun p hp => (ih p hp).2 p.id rfl, Condition.tasks,
      Condition.tasksList_append, Condition.tasksList, List.append_assoc, List.append_assoc,
      List.prefix_append_right_inj]
    exact ihfailed.1.trans (List.prefix_append _ _)

/-- The last call of a walk decides how it ends. All calls before it succeeded. -/
theorem last (h : Walked b c evs outcome) :
    ∃ before ev, evs = before ++ [ev] ∧ (∀ x ∈ before, x.succeeded = true) ∧
      ev.Asks b outcome := by
  -- whatever was placed ended with an answer, so its last call succeeded as well
  have hfine : ∀ {done : List (Placed E)}, (∀ p ∈ done, ∃ before ev, p.events = before ++ [ev] ∧
      (∀ x ∈ before, x.succeeded = true) ∧ ev.Asks b (.ok p.id)) →
      ∀ x ∈ done.flatMap (·.events), x.succeeded = true := by
    intro done ih x hx
    obtain ⟨p, hp, hmem⟩ := List.mem_flatMap.mp hx
    obtain ⟨before, ev, heq, hbefore, hev⟩ := ih p hp
    rw [heq, List.mem_append, List.mem_singleton] at hmem
    rcases hmem with hmem | rfl
    · exact hbefore x hmem
    · exact hev.succeeded_of_ok
  induction h with
  | leaf c p outcome => exact ⟨[], _, rfl, List.forall_mem_nil _, .register p outcome⟩
  | combined done j outcome _ ih => exact ⟨_, _, rfl, hfine ih, .combine j _ outcome⟩
  | stopped done j rest _ _ ih ihfailed =>
    obtain ⟨before, ev, rfl, hbefore, hev⟩ := ihfailed
    refine ⟨done.flatMap (·.events) ++ before, ev, (List.append_assoc ..).symm, ?_, hev⟩
    exact List.forall_mem_append.mpr ⟨hfine ih, hbefore⟩

end Walked

/-! ## Query builders

A query builder passes its calls on to the session it holds, and counts those that succeed. Its own
note of a call is therefore the engine's note together with the counter. -/

namespace QueryBuilder

/-- What is noted of a query builder's calls: it makes the calls of its session, keeps the session,
and counts the calls that succeed. -/
def Counts (E : Engine σ) (handle : E.Builder) (t : Spied E × QueryBuilder E.Builder)
    (evs : List (Event E)) (t' : Spied E × QueryBuilder E.Builder) : Prop :=
  t.2.handle = handle → Follows t.1 evs t'.1 ∧
    t'.2 = { t.2 with registered := t.2.registered + evs.countP Event.succeeded }

/-- A counted call does what the call of the session does, and adds one if it succeeds. -/
theorem run_counted {α : Type} (act : E.Builder → Action σ α) (s : σ) (b : QueryBuilder E.Builder) :
    (counted E act).run (s, b) =
      (((act b.handle).run s).1, ((act b.handle).run s).2,
        { b with
          registered := b.registered + if ((act b.handle).run s).1.isOk then 1 else 0 }) := by
  simp only [counted, Action.run_bind, Action.run_get, Action.run_onFirst]
  rcases (act b.handle).run s with ⟨_ | _, _⟩ <;> rfl

/-- One call of the session is one call of the query builder that holds it. -/
theorem counts_single {c : Call E} {outcome : Except Error c.Result} {s s' : Spied E}
    {b : QueryBuilder E.Builder} (h : Follows s [⟨c, outcome⟩] s') :
    Counts E b.handle (s, b) [⟨c, outcome⟩]
      (s', { b with registered := b.registered + if outcome.isOk then 1 else 0 }) := by
  intro _
  refine ⟨h, ?_⟩
  cases outcome <;> rfl

/-- A query builder notes the calls of its session, in the engine's journal and in its counter. -/
theorem notes_registrar (handle : E.Builder) :
    (registrar E.spied).Notes handle (Counts E handle) where
  nil t _ := ⟨.refl t.1, rfl⟩
  append := by
    -- the handle is kept by the first stretch, so the second one is about the same session
    rintro ⟨s, b⟩ ⟨s', b'⟩ ⟨s'', b''⟩ evs evs' h h' hhandle
    obtain ⟨hfollows, rfl⟩ := h hhandle
    obtain ⟨hfollows', rfl⟩ := h' hhandle
    refine ⟨hfollows.trans hfollows', ?_⟩
    rw [List.countP_append, Nat.add_assoc]
  register := by
    rintro p ⟨s, b⟩ rfl
    have hrun := run_counted (fun h => (E.spied.registrar h).register p) s b
    simp only [registrar, hrun]
    exact counts_single (Follows.single (E := E) (.register b.handle p) s) rfl
  combine := by
    rintro j ids ⟨s, b⟩ rfl
    have hrun := run_counted (fun h => (E.spied.registrar h).combine j ids) s b
    simp only [registrar, hrun]
    exact counts_single (Follows.single (E := E) (.combine b.handle j ids) s) rfl

/-- Registering a condition through a query builder is a walk over its tree. The walk makes the
calls of the tree's nodes in post-order and ends with the answer of its last call, the first one
that fails if any does. Every call that succeeds is counted, and if all do, each comparison was
registered once. -/
theorem registerIn_walks (E : Engine σ) (c : Condition) (s : Spied E)
    (b : QueryBuilder E.Builder) :
    let ran := (c.registerIn (registrar E.spied)).run (s, b)
    ∃ evs, Walked b.handle c evs ran.1 ∧ Follows s evs ran.2.1 ∧
      ran.2.2 = { b with registered := b.registered + evs.countP Event.succeeded } ∧
      (∃ before ev, evs = before ++ [ev] ∧ (∀ x ∈ before, x.succeeded = true) ∧
        ev.Asks b.handle ran.1) ∧
      evs.map (·.call.task) <+: c.tasks ∧
      ∀ id, ran.1 = .ok id → evs.map (·.call.task) = c.tasks ∧
        (evs.filterMap (·.call.task.leaf?)).length = c.leafCount := by
  intro ran
  obtain ⟨evs, hcounts, hwalked⟩ := (notes_registrar b.handle).walked c (s, b)
  obtain ⟨hfollows, hcounted⟩ := hcounts rfl
  obtain ⟨hbegins, hwhole⟩ := hwalked.tasks_begin
  refine ⟨evs, hwalked, hfollows, hcounted, hwalked.last, hbegins, fun id hid => ?_⟩
  have htasks := hwhole id hid
  refine ⟨htasks, ?_⟩
  rw [Condition.leafCount_eq, ← c.leaves_of_tasks, ← htasks, List.filterMap_map]
  rfl

end QueryBuilder

end EntityQuery
