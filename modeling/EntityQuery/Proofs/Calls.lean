import EntityQuery.Proofs.Hosting
import EntityQuery.Proofs.Writes
import EntityQuery.Spied

/-!
# What the calls of the store change

The calls of the store's engine move its counters and the lists of its open handles, and nothing
else: schemas, records and the object counter are left to writes (`Memory.tables_call`). A call that
fails changes nothing at all (`Memory.atomic_perform`).

* `Memory.Reachable` says which states a store can be in, with writes and calls in any order.
* `Memory.Reachable.paired` and `Memory.Reachable.filed` carry the invariants of the two tables to
  all of them.
-/

namespace EntityQuery

namespace Memory

variable {α : Type} {m m' : Memory}

/-! ## Calls that fail

Every call of the engine asks before it changes something, be it for a schema, for an open session
or for an open handle. A call of a session changes the store as far as it changes the session. -/

/-- A call of a session that fails leaves all sessions as they were. -/
theorem callFirst_error {id : UInt64} {act : Action Session α} (hact : act.Atomic)
    {sessions : List Session} {err : Error} (h : (callFirst id act sessions).1 = .error err) :
    (callFirst id act sessions).2 = sessions := by
  -- the call goes to the first session of the id, or to none
  induction sessions with
  | nil => rfl
  | cons s rest ih =>
    rw [callFirst] at h ⊢
    split at h <;> rename_i hid
    · rw [if_pos hid]
      exact congrArg (· :: rest) (hact s err h)
    · rw [if_neg hid]
      exact congrArg (s :: ·) (ih h)

/-- A call of a session of the store that fails leaves the store as it was. -/
theorem atomic_onSession {act : Action Session α} (hact : act.Atomic) (b : Builder) :
    (onSession b act).Atomic := by
  intro m err h
  have hsessions : (callFirst b.id act m.sessions).2 = m.sessions := callFirst_error hact h
  show { m with sessions := (callFirst b.id act m.sessions).2 } = m
  rw [hsessions]

theorem atomic_giveBack (sort : String) (id : Nat) (isOpen : Memory → Bool)
    (close : Memory → Memory) : (giveBack sort id isOpen close).Atomic :=
  .question_bind fun _ => Action.atomic_modify close

/-- A call of the engine that fails leaves the store as it was. -/
theorem atomic_perform (c : Call engine) : c.perform.Atomic := by
  -- by whether the call asks and then changes, asks only, or always goes through
  cases c with
  | newBuilder | compile | openCursor => exact .question_bind fun _ => Action.atomic_modifyGet _
  | register b p => exact atomic_onSession (Session.atomic_register p) b
  | combine b j ids => exact atomic_onSession (Session.atomic_combine j ids) b
  | closeBuilder | closePlan | closeCursor => exact atomic_giveBack _ _ _ _
  | find | findIds | count => exact Action.atomic_ofQuestion _
  | describe | endTx => exact Action.atomic_of_ok fun _ => ⟨_, rfl⟩
  | beginTx => exact Action.atomic_modifyGet _

/-! ## What calls leave alone

What is stored is changed by writes only. A call changes the counters of its own sort of handle and
the list of those that are open. -/

/-- The store has the schemas and records, and the object id counter, of another one. -/
structure Retains (m₀ m : Memory) : Prop where
  schemas : m.schemas = m₀.schemas
  records : m.records = m₀.records
  nextObject : m.nextObject = m₀.nextObject

/-- What a call changes is none of the tables, and not the object counter. -/
theorem leads_perform (c : Call engine) {m₀ : Memory} :
    c.perform.Leads m₀.Retains m₀.Retains := by
  have hkept : ∀ {m m' : Memory}, m₀.Retains m → m'.schemas = m.schemas → m'.records = m.records →
      m'.nextObject = m.nextObject → m₀.Retains m' := fun h hs hr hn =>
    ⟨hs.trans h.schemas, hr.trans h.records, hn.trans h.nextObject⟩
  -- what is changed is a counter, a list of open handles or nothing
  cases c with
  | newBuilder | compile | openCursor =>
    exact .question_bind fun _ => Action.leads_modifyGet fun _ h => hkept h rfl rfl rfl
  | closeBuilder | closePlan | closeCursor =>
    exact .question_bind fun _ _ h => hkept h rfl rfl rfl
  | register | combine | find | findIds | count | describe | beginTx | endTx =>
    exact fun _ h => hkept h rfl rfl rfl

/-- The calls of the engine leave schemas, records and the object counter alone. -/
theorem tables_call (m : Memory) (c : Call engine) : m.Retains (c.perform.run m).2 :=
  leads_perform c m ⟨rfl, rfl, rfl⟩

theorem Paired.of_retains (h : m.Paired) (hm' : m.Retains m') : m'.Paired := by
  intro e
  rw [hm'.schemas, hm'.records]
  exact h e

theorem Filed.of_retains (h : m.Filed) (hm' : m.Retains m') : m'.Filed := by
  intro e model hmodel
  rw [hm'.schemas] at hmodel
  exact h e model hmodel

/-! ## What a store goes through

Writes and calls come in any order. An invariant of the tables needs one step lemma for writes,
since calls leave the tables alone. -/

/-- The stores that a fresh one becomes by writes and by calls of its engine. -/
inductive Reachable : Memory → Prop where
  | new (limit : Option Nat) : Reachable (.new limit)
  | write {m : Memory} (w : Write) (h : Reachable m) : Reachable (m.write w)
  | call {m : Memory} (c : Call engine) (h : Reachable m) : Reachable (c.perform.run m).2

/-- Whatever a store goes through, its two tables have the same entities. -/
theorem Reachable.paired (h : m.Reachable) : m.Paired := by
  induction h with
  | new limit => exact paired_new limit
  | write w _ ih => exact ih.write w
  | @call m c _ ih => exact ih.of_retains (m.tables_call c)

/-- Whatever a store goes through, its schemas are filed under their own entities. -/
theorem Reachable.filed (h : m.Reachable) : m.Filed := by
  induction h with
  | new limit => exact fun _ _ h => nomatch h
  | write w _ ih => exact ih.write w
  | @call m c _ ih => exact ih.of_retains (m.tables_call c)

end Memory

end EntityQuery
