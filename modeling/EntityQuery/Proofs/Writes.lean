import EntityQuery.Memory

/-!
# Stores that are written to

A store is written to by registering entities, putting objects and removing them. `Memory.written`
is the store after some writes.

* `Memory.run_put` and `Memory.run_remove` say what a write gives and leaves; a write that is
  refused leaves the store as it was.
* `Memory.Writes` lists what a write may do, so that whatever is said of a write is said once for
  each of these.
* `Memory.paired_written` says that the entities with a schema are those with a record table, and
  `Memory.filed_written` that every schema stays filed under its own entity.
-/

namespace EntityQuery

/-- A write: an entity is registered, an object put or an object removed. -/
inductive Write where
  | register (model : EntityModel)
  | put (entity : EntityId) (properties : PropertyMap)
  | remove (entity : EntityId) (object : ObjectId)

namespace Memory

variable {m m' : Memory} {e : EntityId} {model : EntityModel} {objects : Table ObjectId Bytes}
  {properties : PropertyMap} {o : ObjectId}

/-! ## What the tables show

The two tables are read by `model` and `objects`, which fail for an entity that is not there. -/

/-- The schema of an entity is the one that is filed under it. -/
theorem model_eq_ok_iff : m.model e = .ok model ↔ m.schemas.get? e = some model := by
  rw [Memory.model]
  split <;> simp [*]

/-- The records of an entity are the record table that is kept under it. -/
theorem objects_eq_ok_iff : m.objects e = .ok objects ↔ m.records.get? e = some objects := by
  rw [Memory.objects]
  split <;> simp [*]

/-- An object is read if its entity's record table lists it. -/
theorem get_eq_ok_some_iff (hobjects : m.objects e = .ok objects) {bytes : Bytes} :
    m.get e o = .ok (some bytes) ↔ (o, bytes) ∈ objects.toList := by
  simp [Memory.get, hobjects, bind, Except.bind, pure, Except.pure, Table.mem_toList_iff]

/-! ## What writes leave

A write looks at the store first. If what it sees will do, it changes the tables, and otherwise it
leaves the store alone. -/

/-- The store with one object more, under the next id. -/
def stored (m : Memory) (e : EntityId) (properties : PropertyMap) : Memory :=
  { m with nextObject := m.nextObject + 1 }.file e ⟨⟨m.nextObject⟩, properties⟩

/-- The store with one object less in the record table of an entity. -/
def removed (m : Memory) (e : EntityId) (objects : Table ObjectId Bytes) (o : ObjectId) : Memory :=
  { m with records := m.records.insert e (objects.erase o) }

theorem run_put (m : Memory) (e : EntityId) (properties : PropertyMap) :
    (put e properties).run m =
      match m.validate e properties with
      | .ok () => (.ok ⟨m.nextObject⟩, m.stored e properties)
      | .error err => (.error err, m) := by
  rw [put, Action.run_bind, Action.run_ofQuestion]
  cases m.validate e properties <;> rfl

/-- An object is stored exactly if it is valid. -/
theorem run_put_eq_ok_iff :
    (put e properties).run m = (.ok o, m') ↔
      m.validate e properties = .ok () ∧ o = ⟨m.nextObject⟩ ∧ m' = m.stored e properties := by
  rw [run_put]
  cases m.validate e properties <;> simp [@eq_comm _ o, @eq_comm _ m']

/-- A removal succeeds for an entity with a record table, and tells what it found there. -/
theorem run_remove (m : Memory) (e : EntityId) (o : ObjectId) :
    (remove e o).run m =
      match m.objects e with
      | .ok objects => (.ok (objects.get? o).isSome, m.removed e objects o)
      | .error err => (.error err, m) := by
  rw [remove, Action.run_bind, Action.run_ofQuestion]
  cases m.objects e <;> rfl

/-- An object that is refused leaves the store as it was. All its values are checked before an id is
used up. -/
theorem atomic_put (e : EntityId) (properties : PropertyMap) : (put e properties).Atomic :=
  .question_bind fun _ => Action.atomic_of_ok fun m => ⟨⟨m.nextObject⟩, rfl⟩

/-- The store after a write, whether it was refused or not. -/
def write (m : Memory) : Write → Memory
  | .register model => m.register model
  | .put e properties => ((put e properties).run m).2
  | .remove e o => ((remove e o).run m).2

/-- What a write may do to a store. -/
inductive Writes (m : Memory) : Memory → Prop where
  | register (model : EntityModel) : Writes m (m.register model)
  | store {e : EntityId} {properties : PropertyMap} (hvalid : m.validate e properties = .ok ()) :
    Writes m (m.stored e properties)
  | remove {e : EntityId} {objects : Table ObjectId Bytes} (hobjects : m.objects e = .ok objects)
    (o : ObjectId) : Writes m (m.removed e objects o)
  | refuse : Writes m m

/-- Putting an object stores it or is refused. -/
theorem writes_put (m : Memory) (e : EntityId) (properties : PropertyMap) :
    m.Writes ((put e properties).run m).2 := by
  rw [run_put]
  cases h : m.validate e properties with
  | ok => exact .store h
  | error err => exact .refuse

/-- Removing an object takes it from its record table or is refused. -/
theorem writes_remove (m : Memory) (e : EntityId) (o : ObjectId) :
    m.Writes ((remove e o).run m).2 := by
  rw [run_remove]
  cases h : m.objects e with
  | ok objects => exact .remove h o
  | error err => exact .refuse

theorem writes_write (m : Memory) (w : Write) : m.Writes (m.write w) := by
  cases w with
  | register model => exact .register model
  | put e properties => exact writes_put m e properties
  | remove e o => exact writes_remove m e o

/-- The store after some writes on a fresh one. -/
def written (limit : Option Nat) (writes : List Write) : Memory :=
  writes.foldl write (.new limit)

/-- What holds of a fresh store and is kept by every write holds of a store after any writes. -/
theorem written_induct {P : Memory → Prop} {limit : Option Nat} (hnew : P (.new limit))
    (hwrite : ∀ m w, P m → P (m.write w)) (writes : List Write) : P (written limit writes) :=
  List.foldlRecOn writes write hnew fun m h w _ => hwrite m w h

/-! ## Schemas and record tables go together

The store keeps its schemas and its records in two tables. No write gives an entity the one without
the other: registering an entity gives it both, an object is put only under a schema, and a removal
takes no record table away. -/

/-- The entities with a schema are the entities with a record table. -/
def Paired (m : Memory) : Prop :=
  ∀ e, (m.schemas.get? e).isSome = (m.records.get? e).isSome

theorem paired_new (limit : Option Nat) : (new limit).Paired :=
  fun _ => rfl

/-- An object that is admitted has a schema. -/
theorem exists_model_of_validate (h : m.validate e properties = .ok ()) :
    ∃ model, m.model e = .ok model :=
  (bind_eq_ok.mp h).imp fun _ h => h.1

/-- What a write may do keeps the entities of the two tables the same. -/
theorem Paired.writes (h : m.Paired) (hm' : m.Writes m') : m'.Paired := by
  intro e'
  -- the two sides gain the entity of a registration and nothing else
  cases hm' with
  | refuse => exact h e'
  | register model =>
    show ((m.schemas.insert model.id model).get? e').isSome =
      ((m.records.update model.id id).get? e').isSome
    rw [Table.isSome_get?_insert, Table.isSome_get?_update, h e']
  | @store e properties hvalid =>
    show (m.schemas.get? e').isSome = ((m.records.update e _).get? e').isSome
    rw [Table.isSome_get?_update, h e', eq_comm, Bool.or_eq_right_iff_imp, decide_eq_true_iff]
    -- the entity has a schema, and so it had a record table already
    intro heq
    obtain ⟨model, hmodel⟩ := exists_model_of_validate hvalid
    rw [← h e', Key.rank_inj heq, model_eq_ok_iff.mp hmodel]
    rfl
  | @remove e objects hobjects o =>
    show (m.schemas.get? e').isSome = ((m.records.insert e _).get? e').isSome
    rw [Table.isSome_get?_insert, h e', eq_comm, Bool.or_eq_right_iff_imp, decide_eq_true_iff]
    intro heq
    rw [Key.rank_inj heq, objects_eq_ok_iff.mp hobjects]
    rfl

theorem Paired.write (h : m.Paired) (w : Write) : (m.write w).Paired :=
  h.writes (m.writes_write w)

/-- Whatever was written, the entities with a schema are those with a record table. -/
theorem paired_written (limit : Option Nat) (writes : List Write) :
    (written limit writes).Paired :=
  written_induct (paired_new limit) (fun _ w h => h.write w) writes

/-- An entity with a schema has a record table. -/
theorem Paired.exists_objects (h : m.Paired) (hmodel : m.model e = .ok model) :
    ∃ objects, m.objects e = .ok objects := by
  have hsome := h e
  rw [model_eq_ok_iff.mp hmodel] at hsome
  obtain ⟨objects, hobjects⟩ := Option.isSome_iff_exists.mp hsome.symm
  exact ⟨objects, objects_eq_ok_iff.mpr hobjects⟩

/-! ## Where schemas are filed

Only registering an entity changes the table of schemas, and it files the schema under the entity
that the schema names. -/

/-- Every schema is filed under its own entity. -/
def Filed (m : Memory) : Prop :=
  ∀ e model, m.schemas.get? e = some model → model.id = e

/-- What a write may do keeps every schema filed under its own entity. -/
theorem Filed.writes (h : m.Filed) (hm' : m.Writes m') : m'.Filed := by
  intro e' model' hmodel
  cases hm' with
  | register model =>
    replace hmodel : (m.schemas.insert model.id model).get? e' = some model' := hmodel
    rw [Table.get?_insert] at hmodel
    -- the schema is the one that is registered, or was there before
    split at hmodel
    · rename_i heq
      obtain rfl : model = model' := Option.some.inj hmodel
      exact (Key.rank_inj heq).symm
    · exact h e' model' hmodel
  | store | remove | refuse => exact h e' model' hmodel

theorem Filed.write (h : m.Filed) (w : Write) : (m.write w).Filed :=
  h.writes (m.writes_write w)

/-- Whatever was written, every schema is filed under its own entity. -/
theorem filed_written (limit : Option Nat) (writes : List Write) : (written limit writes).Filed :=
  written_induct (fun _ _ h => nomatch h) (fun _ w h => h.write w) writes

end Memory

end EntityQuery
