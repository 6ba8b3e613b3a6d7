import EntityQuery.Proofs.Answers
import EntityQuery.Proofs.Calls
import EntityQuery.Proofs.Codec
import EntityQuery.Proofs.FloatReading

/-!
# Stored records can be read

Every record that a store keeps can be read, whatever the store went through
(`Memory.Reachable.readable`). Its values are read as they were put, but for its floats, which are
read as what their text says (`Value.restored`).

* `Record.decode_encode_restored` is that statement for a single record.
* `Memory.validate_eq_ok_iff` says which objects are stored.
* `Memory.Reachable.stores` says what holds of all that is stored.
-/

namespace EntityQuery

open JsonForm

/-! ## What is read

Everything but floats is read as it was written. A float is written as decimal text, and read as
what this text says, which need not be the same float. So what a record is read as is the record
with its floats restored one by one. -/

/-- The table with every value changed. -/
def Table.mapValues {κ α β : Type} [Key κ] (f : α → β) (t : Table κ α) : Table κ β where
  entries := t.entries.map fun e => (e.1, f e.2)
  ascending := List.pairwise_map.mpr t.ascending

namespace Value

/-- What a stored value is read as. -/
def restored : Value → Value
  | float x => .float ((restored? x).getD x)
  | v => v

/-- A stored value is read as it was, or as its float is restored. -/
theorem readsAs_restored {v : Value} (h : ∀ x, v = .float x → x.isFinite = true) (room : Nat) :
    ReadsAs (room + 2) v v.restored := by
  -- only floats are written as something that is read differently
  cases v with
  | float x =>
    obtain ⟨y, hy⟩ := Option.isSome_iff_exists.mp (restored?_isSome (h x rfl))
    rw [restored, hy]
    exact readsAs_float (JsonForm.readsAs_float (h x rfl) hy)
  | null | bool | int | uint | string | bytes =>
    exact readsBack (fun _ => Value.noConfusion) room

end Value

namespace Record

/-- The record with its floats restored. -/
def restored (r : Record) : Record :=
  ⟨r.id, r.properties.mapValues Value.restored⟩

/-- A record whose floats are finite is read from its bytes. -/
theorem decode_encode_restored (r : Record)
    (h : ∀ p x, r.properties.get? p = some (.float x) → x.isFinite = true) :
    decode r.encode = .ok r.restored := by
  refine decode_encode_of_forall₂ rfl ?_
  show List.Forall₂ _ _ (r.properties.toList.map _)
  rw [List.forall₂_map_right_iff, List.forall₂_same]
  rintro ⟨p, v⟩ hmem
  refine ⟨rfl, Value.readsAs_restored (fun x hx => h p x ?_) 123⟩
  rw [← hx]
  exact Table.mem_toList_iff.mp hmem

end Record

/-! ## What is stored

An object is checked pair by pair against the schema of its entity. What passes has only finite
floats, and these are the ones that can be restored. -/

namespace Memory

variable {m m' : Memory} {e : EntityId}

theorem forM_eq_ok_iff {ε α : Type} {f : α → Except ε Unit} {as : List α} :
    as.forM f = .ok () ↔ ∀ a ∈ as, f a = .ok () := by
  induction as with
  | nil => simp [pure, Except.pure]
  | cons a as ih =>
    simp only [List.forM_eq_forM] at ih
    simp only [List.forM_eq_forM, List.forM_cons, bind_eq_ok, ih, List.forall_mem_cons]
    constructor
    · rintro ⟨_, ha, has⟩
      exact ⟨ha, has⟩
    · rintro ⟨ha, has⟩
      exact ⟨_, ha, has⟩

/-- A pair passes if its property is declared with a kind that admits its value. -/
theorem check_eq_ok_iff {model : EntityModel} {p : PropertyId} {v : Value} :
    check model e p v = .ok () ↔
      ∃ property, model.property? p = some property ∧ admits property.kind v = true := by
  rw [check]
  cases model.property? p with
  | none => simp
  | some property => cases admits property.kind v <;> simp

/-- All pairs of a map pass if each property is declared with a kind that admits its value. -/
theorem forM_check_eq_ok_iff {model : EntityModel} {properties : PropertyMap} :
    (properties.toList.forM fun (p, v) => check model e p v) = .ok () ↔
      ∀ p v, properties.get? p = some v →
        ∃ property, model.property? p = some property ∧ admits property.kind v = true := by
  simp only [forM_eq_ok_iff, Prod.forall, Table.mem_toList_iff, check_eq_ok_iff]

/-- Only finite floats are stored. -/
theorem isFinite_of_admits {k : Kind} {x : Float} (h : admits k (.float x) = true) :
    x.isFinite = true := by
  cases k with
  | float k =>
    cases k with
    | float64 => exact h
    | float32 => exact (Bool.and_eq_true_iff.mp h).1
  | bool | integer | text | byteVector => cases h

/-- An object is stored if its entity has a schema that admits all its values. -/
theorem validate_eq_ok_iff {properties : PropertyMap} :
    m.validate e properties = .ok () ↔ ∃ model, m.model e = .ok model ∧
      ∀ p v, properties.get? p = some v →
        ∃ property, model.property? p = some property ∧ admits property.kind v = true := by
  -- the schema is looked up before the pairs are checked
  simp only [validate, bind_eq_ok, forM_check_eq_ok_iff]

/-- The floats of a valid object are finite. -/
theorem isFinite_of_validate {properties : PropertyMap} (h : m.validate e properties = .ok ())
    {p : PropertyId} {x : Float} (hx : properties.get? p = some (.float x)) :
    x.isFinite = true := by
  obtain ⟨model, -, hadmits⟩ := validate_eq_ok_iff.mp h
  obtain ⟨property, -, hadmitted⟩ := hadmits p _ hx
  exact isFinite_of_admits hadmitted

/-! ## Readable stores

Something holds of all that is stored if it holds of every new record of finite floats: writing
keeps it, since a write either files such a record or moves records that were there, and calls of
the engine leave the tables alone. -/

/-- An object is read if its entity has a record table that has its record. -/
theorem get_eq_ok_some {o : ObjectId} {bytes : Bytes} :
    m.get e o = .ok (some bytes) ↔
      ∃ objects, m.records.get? e = some objects ∧ objects.get? o = some bytes := by
  simp [Memory.get, bind_eq_ok, objects_eq_ok_iff, pure, Except.pure]

/-- Whether what is stored under any id is something that can be stored under it. -/
def Stores (P : ObjectId → Bytes → Prop) (m : Memory) : Prop :=
  ∀ e o bytes, m.get e o = .ok (some bytes) → P o bytes

namespace Stores

variable {P : ObjectId → Bytes → Prop}

/-- What is stored is told by the record tables alone. -/
theorem of_records_eq (h : m.Stores P) (hm' : m'.records = m.records) : m'.Stores P := by
  intro e o bytes hget
  rw [get_eq_ok_some, hm'] at hget
  exact h e o bytes (get_eq_ok_some.mpr hget)

/-- A record table all of whose records can be stored may take the place of another one. -/
theorem insert (h : m.Stores P) {objects : Table ObjectId Bytes}
    (hm' : m'.records = m.records.insert e objects)
    (hobjects : ∀ o bytes, objects.get? o = some bytes → P o bytes) : m'.Stores P := by
  intro e' o bytes hget
  obtain ⟨objects', hobjects', hbytes⟩ := get_eq_ok_some.mp hget
  rw [hm', Table.get?_insert] at hobjects'
  split at hobjects'
  · cases hobjects'
    exact hobjects o bytes hbytes
  · exact h e' o bytes (get_eq_ok_some.mpr ⟨objects', hobjects', hbytes⟩)

/-- What is in a record table, or in the empty one in its place, can be stored. -/
theorem default (h : m.Stores P) (e : EntityId) {o : ObjectId} {bytes : Bytes}
    (hbytes : ((m.records.get? e).getD Inhabited.default).get? o = some bytes) : P o bytes := by
  cases hobjects : m.records.get? e with
  | none =>
    rw [hobjects] at hbytes
    cases hbytes
  | some objects =>
    rw [hobjects] at hbytes
    exact h e o bytes (get_eq_ok_some.mpr ⟨objects, hobjects, hbytes⟩)

/-- Registering an entity may open a record table, which has nothing in it. -/
theorem register (h : m.Stores P) (model : EntityModel) : (m.register model).Stores P :=
  h.insert rfl fun _ _ => h.default model.id

/-- Storing an object adds a record, which is all that has to be checked. -/
theorem stored (h : m.Stores P) {properties : PropertyMap}
    (hnew : P ⟨m.nextObject⟩ (Record.encode ⟨⟨m.nextObject⟩, properties⟩)) :
    (m.stored e properties).Stores P := by
  refine h.insert (e := e) rfl fun o bytes hbytes => ?_
  -- a record is the new one or was there
  rw [Table.get?_insert] at hbytes
  split at hbytes
  · rename_i heq
    obtain rfl := Key.rank_inj heq
    cases hbytes
    exact hnew
  · exact h.default e hbytes

/-- Removing an object takes a record away and changes none. -/
theorem removed (h : m.Stores P) {objects : Table ObjectId Bytes}
    (hobjects : m.objects e = .ok objects) (o : ObjectId) : (m.removed e objects o).Stores P := by
  refine h.insert (e := e) rfl fun o' bytes hbytes => ?_
  rw [Table.get?_erase] at hbytes
  split at hbytes
  · cases hbytes
  · exact h e o' bytes (get_eq_ok_some.mpr ⟨objects, objects_eq_ok_iff.mp hobjects, hbytes⟩)

/-- What a write may do stores records of finite floats only. -/
theorem writes (h : m.Stores P)
    (hnew : ∀ o properties, (∀ p x, properties.get? p = some (.float x) → x.isFinite = true) →
      P o (Record.encode ⟨o, properties⟩)) (hm' : m.Writes m') : m'.Stores P := by
  -- by what a write may do; only a new object has a record that was not there
  cases hm' with
  | register model => exact h.register model
  | store hvalid => exact h.stored (hnew _ _ fun p x => isFinite_of_validate hvalid)
  | remove hobjects o => exact h.removed hobjects o
  | refuse => exact h

end Stores

/-- What holds of every record of finite floats holds of every record that a store keeps. -/
theorem Reachable.stores {P : ObjectId → Bytes → Prop} (h : m.Reachable)
    (hnew : ∀ o properties, (∀ p x, properties.get? p = some (.float x) → x.isFinite = true) →
      P o (Record.encode ⟨o, properties⟩)) : m.Stores P := by
  -- along the history of the store, in which calls leave the records alone
  induction h with
  | new limit =>
    intro e o bytes hget
    obtain ⟨objects, hobjects, -⟩ := get_eq_ok_some.mp hget
    cases hobjects
  | @write m w _ ih => exact ih.writes hnew (m.writes_write w)
  | @call m c _ ih => exact ih.of_records_eq (m.tables_call c).records

/-- Every record that a store keeps can be read, and carries the id that it is stored under. -/
theorem Reachable.keyed (h : m.Reachable) :
    m.Stores fun o bytes => ∃ r, Record.decode bytes = .ok r ∧ r.id = o :=
  h.stores fun o properties hfinite =>
    ⟨_, Record.decode_encode_restored ⟨o, properties⟩ hfinite, rfl⟩

/-- Every record that a store keeps can be read. -/
theorem Reachable.readable (h : m.Reachable) (e : EntityId) : m.Readable e :=
  fun o bytes hget => (h.keyed e o bytes hget).imp fun _ hr => hr.1

end Memory

end EntityQuery
