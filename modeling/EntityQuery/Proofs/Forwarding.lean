import EntityQuery.QueryBuilder

/-!
# A query builder forwards to its session

Whatever is registered through a query builder is registered with the session that it holds. The
query builder only counts; its handle stays the same, also when a registration fails half way.
-/

namespace EntityQuery

namespace QueryBuilder

variable {σ α : Type} {E : Engine σ}

/-- A call of a query builder does to the engine what a call of its session does, and keeps the
session. -/
def Forwards (call : Action (σ × QueryBuilder E.Builder) α) (act : E.Builder → Action σ α) : Prop :=
  ∀ s b, ∃ n, call.run (s, b) =
    (((act b.handle).run s).1, ((act b.handle).run s).2, { b with registered := n })

/-- Counting changes nothing of what a call of the session does. -/
theorem forwards_counted (act : E.Builder → Action σ α) : Forwards (counted E act) act := by
  intro s b
  simp only [counted, Action.run_bind, Action.run_get, Action.run_onFirst]
  rcases (act b.handle).run s with ⟨e | a, s'⟩
  · exact ⟨b.registered, rfl⟩
  · exact ⟨b.registered + 1, rfl⟩

/-- A comparison is handed to the session through its primitive. -/
theorem forwards_apply (c : Comparison) :
    Forwards (c.apply (registrar E)) fun b => c.apply (E.registrar b) :=
  forwards_counted fun b => (E.registrar b).register c.primitive

/-- A junction is handed to the session with the ids of its children. -/
theorem forwards_combine (j : Junction) (ids : List ConditionId) :
    Forwards ((registrar E).combine j ids) fun b => (E.registrar b).combine j ids :=
  forwards_counted fun b => (E.registrar b).combine j ids

/-- Compiling does not even touch the counter. -/
theorem forwards_compile : Forwards (compile E) E.compile :=
  fun _ b => ⟨b.registered, rfl⟩

/-- A sequence is forwarded if its parts are, whatever the first part answers. -/
theorem Forwards.bind {β : Type} {call : Action (σ × QueryBuilder E.Builder) α}
    {act : E.Builder → Action σ α} {next : α → Action (σ × QueryBuilder E.Builder) β}
    {next' : α → E.Builder → Action σ β} (h : Forwards call act)
    (hnext : ∀ a, Forwards (next a) (next' a)) :
    Forwards (call >>= next) fun b => act b >>= fun a => next' a b := by
  intro s b
  -- the handle that the rest gets is the one the first part got, only the counter may have moved
  obtain ⟨n, hrun⟩ := h s b
  simp only [Action.run_bind, hrun]
  rcases (act b.handle).run s with ⟨e | a, s'⟩
  · exact ⟨n, rfl⟩
  · exact hnext a s' { b with registered := n }

theorem forwards_pure (a : α) : Forwards (E := E) (pure a) fun _ => pure a :=
  fun _ b => ⟨b.registered, rfl⟩

/-- Registering the children of a junction is forwarded if registering each of them is. -/
theorem forwards_registerList {cs : List Condition}
    (h : ∀ c ∈ cs, Forwards (c.registerIn (registrar E)) fun b => c.registerIn (E.registrar b)) :
    Forwards (Condition.registerList (registrar E) cs) fun b =>
      Condition.registerList (E.registrar b) cs := by
  induction cs with
  | nil => exact forwards_pure []
  | cons c rest ih =>
    obtain ⟨hc, hrest⟩ := List.forall_mem_cons.mp h
    simp only [Condition.registerList]
    exact hc.bind fun id => (ih hrest).bind fun ids => forwards_pure (id :: ids)

/-- Registering a condition is forwarded: the query builder makes the session's calls, in its order,
and stops where it stops. -/
theorem forwards_registerIn (c : Condition) :
    Forwards (c.registerIn (registrar E)) fun b => c.registerIn (E.registrar b) := by
  induction c with
  | compare c =>
    simp only [Condition.registerIn]
    exact forwards_apply c
  | join j children ih =>
    simp only [Condition.registerIn]
    exact (forwards_registerList ih).bind fun ids => forwards_combine j ids

end QueryBuilder

end EntityQuery
