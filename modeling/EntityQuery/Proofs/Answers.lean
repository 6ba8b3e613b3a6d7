import EntityQuery.Proofs.Hosting
import EntityQuery.Proofs.Writes

/-!
# Queries answer their conditions

A query on a memory store finds exactly the objects whose records its condition holds of, read as a
formula, in the order of their ids (`Memory.findIds_written`).
-/

namespace EntityQuery

namespace Memory

/-- Whether a stored record can be read and satisfies a predicate. -/
def satisfies (p : Predicate) (bytes : Bytes) : Bool :=
  match Record.decode bytes with
  | .ok r => p.holds r
  | .error _ => false

/-- A record satisfies a predicate if it can be decoded and what it holds does. -/
theorem satisfies_iff {p : Predicate} {bytes : Bytes} :
    satisfies p bytes = true ↔ ∃ r, Record.decode bytes = .ok r ∧ p.holds r = true := by
  rw [satisfies]
  split <;> simp [*]

/-- A scan of records that can all be read keeps those that satisfy the predicate. -/
theorem select_eq_filter {p : Predicate} {entries : List (ObjectId × Bytes)}
    (h : ∀ entry ∈ entries, ∃ r, Record.decode entry.2 = .ok r) :
    select p entries = .ok (entries.filter fun entry => satisfies p entry.2) := by
  induction entries with
  | nil => rfl
  | cons entry rest ih =>
    obtain ⟨⟨r, hr⟩, hrest⟩ := List.forall_mem_cons.mp h
    rw [select, hr, ih hrest, List.filter_cons, satisfies, hr]
    rfl

/-- All records of an entity can be decoded. -/
def Readable (m : Memory) (e : EntityId) : Prop :=
  ∀ o bytes, m.get e o = .ok (some bytes) → ∃ r, Record.decode bytes = .ok r

/-- Whether all records of an entity can be read is told by its record table. -/
theorem readable_iff {m : Memory} {e : EntityId} :
    m.Readable e ↔ ∀ objects ∈ m.records.get? e, ∀ entry ∈ objects.toList,
      (Record.decode entry.2).isOk = true := by
  have hok : ∀ bytes, (Record.decode bytes).isOk = true ↔ ∃ r, Record.decode bytes = .ok r := by
    intro bytes
    cases Record.decode bytes <;> simp [Except.isOk, Except.toBool]
  simp only [hok, Option.mem_def, ← objects_eq_ok_iff]
  constructor
  · intro h objects hobjects entry hentry
    exact h entry.1 entry.2 ((get_eq_ok_some_iff hobjects).mpr hentry)
  · intro h o bytes hget
    obtain ⟨objects, hobjects, -⟩ := bind_eq_ok.mp hget
    exact h objects hobjects (o, bytes) ((get_eq_ok_some_iff hobjects).mp hget)

instance (m : Memory) (e : EntityId) : Decidable (m.Readable e) :=
  decidable_of_iff _ readable_iff.symm

/-- A query finds the objects whose records satisfy what its condition resolves to. -/
theorem run_findIds_readable {m : Memory} {e : EntityId} {model : EntityModel}
    {objects : Table ObjectId Bytes} {c : Condition} {p : Predicate}
    (hmodel : m.model e = .ok model) (hobjects : m.objects e = .ok objects) (hid : model.id = e)
    (hreadable : m.Readable e) (hsize : c.size ≤ 2 ^ 32) (hp : c.resolve model = .ok p) :
    (Query.findIds engine).run (m, ⟨e, c, none⟩) =
      (.ok ((objects.toList.filter fun entry => satisfies p entry.2).map (·.1)), m.queried,
        ⟨e, c, none⟩) := by
  have hselect : select p objects.toList = .ok _ :=
    select_eq_filter fun entry hentry =>
      hreadable entry.1 entry.2 ((get_eq_ok_some_iff hobjects).mpr hentry)
  rw [run_findIds hmodel hobjects hid hsize hp, hselect]
  rfl

/-- On a store that was only written to, a query with an accepted condition finds, in ascending
order, exactly the objects of its entity whose records the condition holds of. -/
theorem findIds_written (limit : Option Nat) (writes : List Write) {e : EntityId}
    {model : EntityModel} {c : Condition} (hmodel : (written limit writes).model e = .ok model)
    (hreadable : (written limit writes).Readable e) (haccepted : c.AcceptedBy model)
    (hsize : c.size < 2 ^ 32) :
    ∃ ids s, (Query.findIds engine).run (written limit writes, ⟨e, c, none⟩) = (.ok ids, s) ∧
      ids.Pairwise (·.val < ·.val) ∧
      ∀ o, o ∈ ids ↔ ∃ bytes r, (written limit writes).get e o = .ok (some bytes) ∧
        Record.decode bytes = .ok r ∧ c.Holds model r := by
  -- an entity with a schema has records, and its schema is its own
  obtain ⟨objects, hobjects⟩ := (paired_written limit writes).exists_objects hmodel
  have hid : model.id = e := filed_written limit writes e model (model_eq_ok_iff.mp hmodel)
  obtain ⟨p, hp⟩ := Condition.exists_resolve_iff.mpr haccepted
  refine ⟨_, _, run_findIds_readable hmodel hobjects hid hreadable (Nat.le_of_lt hsize) hp, ?_, ?_⟩
  · -- the table lists its entries in key order, and the scan keeps that order
    rw [List.pairwise_map]
    exact (objects.ascending.filter _).imp fun h => UInt64.lt_iff_toNat_lt.mpr h
  · -- what is listed under an id is what `get` reads
    intro o
    simp only [List.mem_map, List.mem_filter, satisfies_iff, Condition.holds_of_resolve hp]
    constructor
    · rintro ⟨⟨_, bytes⟩, ⟨hmem, r, hr, hholds⟩, rfl⟩
      exact ⟨bytes, r, (get_eq_ok_some_iff hobjects).mpr hmem, hr, hholds⟩
    · rintro ⟨bytes, r, hget, hr, hholds⟩
      exact ⟨(o, bytes), ⟨(get_eq_ok_some_iff hobjects).mp hget, r, hr, hholds⟩, rfl⟩

/-- Of three people one is too young and the third was removed, so the query finds the first. -/
theorem findIds_written_people :
    let people : EntityModel := (EntityModel.new ⟨7⟩ "Person").declare ⟨3⟩ "age" (.integer .uint8)
    let writes : List Write := [.register people, .put ⟨7⟩ (.ofList [(⟨3⟩, .uint 41)]),
      .put ⟨7⟩ (.ofList [(⟨3⟩, .uint 12)]), .put ⟨7⟩ .empty, .remove ⟨7⟩ ⟨3⟩]
    let older : Condition := .all [.compare ⟨⟨3⟩, .notNull⟩, .any [.compare ⟨⟨3⟩, .intGreater 40⟩]]
    ∃ s, (Query.findIds engine).run (written none writes, ⟨⟨7⟩, older, none⟩) = (.ok [⟨1⟩], s) ∧
      ∀ o, o = ⟨1⟩ ↔ ∃ bytes r, (written none writes).get ⟨7⟩ o = .ok (some bytes) ∧
        Record.decode bytes = .ok r ∧ older.Holds people r := by
  intro people writes older
  obtain ⟨ids, s, hrun, -, hids⟩ := findIds_written none writes (e := ⟨7⟩) (c := older)
    rfl (by decide +kernel) (by decide +kernel) (by decide)
  have hfound : ((Query.findIds engine).run (written none writes, ⟨⟨7⟩, older, none⟩)).1 =
      .ok [⟨1⟩] := by
    decide +kernel
  obtain rfl : ids = [⟨1⟩] := Except.ok.inj ((congrArg Prod.fst hrun).symm.trans hfound)
  exact ⟨s, hrun, fun o => List.mem_singleton.symm.trans (hids o)⟩

end Memory

end EntityQuery
