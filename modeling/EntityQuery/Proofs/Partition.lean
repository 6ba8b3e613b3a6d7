import EntityQuery.Proofs.Decisions

/-!
# Comparisons split a store

On a store in which no entity changed its schema, each family of comparisons of a property splits
the live objects without overlap or remainder (`Memory.comparisons_split`). Objects whose property
is null are left to the null checks, and every other object is decided by every comparison that its
schema accepts.

* `EntityModel.Describes` says that every record of a table holds under each property what the
  property carries, and `Memory.conforms_written` that each schema describes the records of its
  entity if no entity is registered twice.
* `flatten_filter_perm` says that filters of which one accepts each element split a list.
-/

namespace EntityQuery

/-! ## Splitting a list

The entries that a comparison accepts are a filter of the record table, and a family gives one
filter for each comparison. Whether these split the table is decided entry by entry. -/

section Splitting

variable {α β : Type} {accepts : β → α → Bool}

/-- In the filters of a list together, an element is as often as in the list, once for each filter
that accepts it. -/
theorem count_flatten_filter [DecidableEq α] (bs : List β) (as : List α) (a : α) :
    (bs.map fun b => as.filter (accepts b)).flatten.count a =
      bs.countP (accepts · a) * as.count a := by
  induction bs with
  | nil => simp
  | cons b bs ih =>
    rw [List.map_cons, List.flatten_cons, List.count_append, ih, List.countP_cons]
    cases h : accepts b a with
    | true => rw [List.count_filter h, if_pos rfl, Nat.add_mul, Nat.one_mul, Nat.add_comm]
    | false =>
      have hnot : a ∉ as.filter (accepts b) := fun hmem => by simp [h] at hmem
      simp [List.count_eq_zero_of_not_mem hnot]

/-- Filters of which one accepts each element of a list split the list. -/
theorem flatten_filter_perm {bs : List β} {as : List α}
    (h : ∀ a ∈ as, bs.countP (accepts · a) = 1) :
    (bs.map fun b => as.filter (accepts b)).flatten.Perm as := by
  classical
  refine List.perm_iff_count.mpr fun a => ?_
  rw [count_flatten_filter]
  by_cases ha : a ∈ as
  · rw [h a ha, Nat.one_mul]
  · rw [List.count_eq_zero_of_not_mem ha, Nat.mul_zero]

end Splitting

/-! ## Conforming records

A schema describes records that are put under it. It may not describe those that were put under an
earlier schema of the entity, which is why no entity may be registered twice. -/

/-- The entity that a write registers. -/
def Write.registered? : Write → Option EntityId
  | .register model => some model.id
  | .put .. | .remove .. => none

/-- Whether every record of a table can be read, with a value under each declared property that the
property carries. -/
def EntityModel.Describes (model : EntityModel) (objects : Table ObjectId Bytes) : Prop :=
  ∀ o bytes, objects.get? o = some bytes → ∃ r, Record.decode bytes = .ok r ∧
    ∀ id p, model.property? id = some p → p.kind.Carries (r.value id)

theorem Table.get?_mapValues {κ α β : Type} [Key κ] (f : α → β) (t : Table κ α) (k : κ) :
    (t.mapValues f).get? k = (t.get? k).map f := by
  show Table.lookup k (t.entries.map fun e => (e.1, f e.2)) = (Table.lookup k t.entries).map f
  induction t.entries with
  | nil => rfl
  | cons entry entries ih =>
    simp only [List.map_cons, Table.lookup, ih]
    split <;> rfl

/-- What a restored record has under a property is what the record has, restored. -/
theorem Record.value_restored (r : Record) (p : PropertyId) :
    r.restored.value p = (r.value p).restored := by
  rw [Record.value, Record.restored, Table.get?_mapValues, Record.value]
  cases r.properties.get? p <;> rfl

namespace Memory

variable {m m' : Memory} {e : EntityId} {model : EntityModel} {objects : Table ObjectId Bytes}
  {properties : PropertyMap} {o : ObjectId}

/-- Every schema describes the records of its entity. -/
def Conforms (m : Memory) : Prop :=
  ∀ e model objects, m.model e = .ok model → m.objects e = .ok objects → model.Describes objects

/-- A record that is admitted and put is described by the schema that admitted it. -/
theorem describes_encode (hvalid : m.validate e properties = .ok ())
    (hmodel : m.model e = .ok model) (o : ObjectId) :
    ∃ r, Record.decode (Record.encode ⟨o, properties⟩) = .ok r ∧
      ∀ id p, model.property? id = some p → p.kind.Carries (r.value id) := by
  have hread := Record.decode_encode_restored ⟨o, properties⟩ fun p x => isFinite_of_validate hvalid
  refine ⟨_, hread, fun id p hp => ?_⟩
  obtain ⟨model', hmodel', hadmits⟩ := validate_eq_ok_iff.mp hvalid
  obtain rfl : model = model' := Except.ok.inj (hmodel.symm.trans hmodel')
  rw [Record.value_restored, Record.value]
  -- a property that is missing is null, and one that is there was admitted
  cases hv : properties.get? id with
  | none => exact .inl rfl
  | some v =>
    obtain ⟨property, hproperty, hadmitted⟩ := hadmits id v hv
    obtain rfl : p = property := Option.some.inj (hp.symm.trans hproperty)
    exact Kind.carries_restored hadmitted

/-- A record table takes the place of another one under the same schemas. -/
theorem Conforms.insert (h : m.Conforms) (hschemas : m'.schemas = m.schemas)
    (hrecords : m'.records = m.records.insert e objects)
    (hobjects : ∀ model, m.model e = .ok model → model.Describes objects) : m'.Conforms := by
  intro e' model objects' hmodel' hobjects'
  have hmodel : m.model e' = .ok model := by
    rwa [model_eq_ok_iff, hschemas, ← model_eq_ok_iff] at hmodel'
  rw [objects_eq_ok_iff, hrecords, Table.get?_insert] at hobjects'
  split at hobjects'
  · rename_i heq
    obtain rfl := Key.rank_inj heq
    cases hobjects'
    exact hobjects model hmodel
  · exact h e' model objects' hmodel (objects_eq_ok_iff.mpr hobjects')

/-- A valid object conforms to the schema that it was checked against. -/
theorem Conforms.stored (h : m.Conforms) (hvalid : m.validate e properties = .ok ()) :
    (m.stored e properties).Conforms := by
  refine h.insert (e := e) rfl rfl fun model hmodel o bytes hbytes => ?_
  rw [Table.get?_insert] at hbytes
  split at hbytes
  · cases hbytes
    exact describes_encode hvalid hmodel _
  · -- the other records were in the table already, if there was one
    replace hbytes : ((m.records.get? e).getD default).get? o = some bytes := hbytes
    cases hobjects : m.records.get? e with
    | none =>
      rw [hobjects] at hbytes
      cases hbytes
    | some objects =>
      rw [hobjects] at hbytes
      exact h e model objects hmodel (objects_eq_ok_iff.mpr hobjects) o bytes hbytes

/-- Taking a record away leaves the others, which conformed before. -/
theorem Conforms.removed (h : m.Conforms) (hobjects : m.objects e = .ok objects) (o : ObjectId) :
    (m.removed e objects o).Conforms := by
  refine h.insert rfl rfl fun model hmodel o' bytes hbytes => ?_
  rw [Table.get?_erase] at hbytes
  split at hbytes
  · cases hbytes
  · exact h e model objects hmodel hobjects o' bytes hbytes

/-- A new entity has no records yet, since it had no schema. -/
theorem Conforms.register (h : m.Conforms) (hpaired : m.Paired)
    (hnew : m.schemas.get? model.id = none) : (m.register model).Conforms := by
  intro e' model' objects' hmodel' hobjects'
  rw [model_eq_ok_iff] at hmodel'
  rw [objects_eq_ok_iff] at hobjects'
  replace hmodel' : (m.schemas.insert model.id model).get? e' = some model' := hmodel'
  replace hobjects' : (m.records.insert model.id ((m.records.get? model.id).getD default)).get? e' =
    some objects' := hobjects'
  rw [Table.get?_insert] at hmodel' hobjects'
  -- the new entity has no records, and the others keep theirs
  split at hmodel' <;> rename_i heq
  · have hnone : m.records.get? model.id = none := by
      simpa [hnew] using hpaired model.id
    rw [if_pos heq, hnone] at hobjects'
    cases hobjects'
    intro o bytes hbytes
    cases hbytes
  · rw [if_neg heq] at hobjects'
    exact h e' model' objects' (model_eq_ok_iff.mpr hmodel') (objects_eq_ok_iff.mpr hobjects')

/-- A write keeps the records conforming, unless it gives an entity another schema. -/
theorem Conforms.write (h : m.Conforms) (hpaired : m.Paired) {w : Write}
    (hnew : ∀ e ∈ w.registered?, m.schemas.get? e = none) : (m.write w).Conforms := by
  cases w with
  | register model => exact h.register hpaired (hnew _ rfl)
  | put e properties =>
    rw [Memory.write, run_put]
    cases hvalid : m.validate e properties with
    | ok => exact h.stored hvalid
    | error err => exact h
  | remove e o =>
    rw [Memory.write, run_remove]
    cases hobjects : m.objects e with
    | ok objects => exact h.removed hobjects o
    | error err => exact h

/-- Only a registration adds a schema. -/
theorem isSome_write (m : Memory) (w : Write) (e : EntityId) :
    ((m.write w).schemas.get? e).isSome ↔ w.registered? = some e ∨ (m.schemas.get? e).isSome := by
  cases w with
  | register model =>
    show ((m.schemas.insert model.id model).get? e).isSome ↔ _
    rw [Table.isSome_get?_insert, Bool.or_eq_true, decide_eq_true_iff, Key.rank_eq_iff]
    simp [Write.registered?, @eq_comm _ e]
  | put e' properties =>
    rw [Memory.write, run_put]
    cases m.validate e' properties <;> simp [Write.registered?, stored, file]
  | remove e' o =>
    rw [Memory.write, run_remove]
    cases m.objects e' <;> simp [Write.registered?, removed]

theorem written_concat (limit : Option Nat) (writes : List Write) (w : Write) :
    written limit (writes ++ [w]) = (written limit writes).write w := by
  rw [written, List.foldl_append]
  rfl

/-- The entities of a store are those that were registered. -/
theorem isSome_written_iff (limit : Option Nat) (writes : List Write) (e : EntityId) :
    ((written limit writes).schemas.get? e).isSome ↔ e ∈ writes.filterMap Write.registered? := by
  -- by the last write
  induction writes using List.reverseRecOn with
  | nil => simp [written, new]
  | append_singleton writes w ih =>
    rw [written_concat, isSome_write, ih, List.filterMap_append, List.mem_append, or_comm]
    simp [eq_comm]

/-- The records of a store conform to their schemas if no entity was registered twice. -/
theorem conforms_written (limit : Option Nat) {writes : List Write}
    (honce : (writes.filterMap Write.registered?).Nodup) : (written limit writes).Conforms := by
  -- by the last write
  induction writes using List.reverseRecOn with
  | nil => exact fun _ _ _ hmodel => nomatch hmodel
  | append_singleton writes w ih =>
    rw [List.filterMap_append, List.nodup_append] at honce
    obtain ⟨honce, -, hdisjoint⟩ := honce
    rw [written_concat]
    -- an entity that is registered now was not registered before, so it has no schema
    refine (ih honce).write (paired_written limit writes) fun e he => ?_
    rw [← Option.not_isSome_iff_eq_none, isSome_written_iff]
    intro hmem
    exact hdisjoint e hmem e (by simpa using he) rfl

/-! ## Families of comparisons

A comparison alone is a whole condition, so a query with it finds what the comparison accepts of the
record table. The family then splits the table as its operators split the values, and the values are
those that the property carries. -/

/-- A record satisfies a comparison if its value under the property passes the test. -/
theorem satisfies_compare {id : PropertyId} {name : String} {t : Test} {bytes : Bytes} {r : Record}
    (hr : Record.decode bytes = .ok r) :
    satisfies (.compare id name t) bytes = t.passes (r.value id) := by
  rw [satisfies, hr]
  rfl

/-- Whether a new query on an entity finds the objects with the ids. -/
def Finds (m : Memory) (e : EntityId) (c : Condition) (ids : List ObjectId) : Prop :=
  ∃ s, (Query.findIds engine).run (m, ⟨e, c, none⟩) = (.ok ids, s)

/-- A query finds one list of ids only, which is what it comes to when it is run. -/
theorem Finds.eq_of_outcome {c : Condition} {ids : List ObjectId} (h : m.Finds e c ids)
    (answer : List ObjectId)
    (hrun : ((Query.findIds engine).run (m, ⟨e, c, none⟩)).1 = .ok answer) : ids = answer := by
  obtain ⟨s, hs⟩ := h
  rw [hs] at hrun
  exact Except.ok.inj hrun

variable {id : PropertyId} {p : Property}

/-- The entries that a comparison of a property accepts. -/
def accepted (objects : Table ObjectId Bytes) (id : PropertyId) (p : Property) (op : Operator) :
    List (ObjectId × Bytes) :=
  objects.toList.filter fun entry => satisfies (.compare id p.name (op.test p.kind)) entry.2

/-- A query with a comparison that fits finds the entries that the comparison accepts. -/
theorem finds_accepted (hmodel : m.model e = .ok model) (hobjects : m.objects e = .ok objects)
    (hid : model.id = e) (hreadable : m.Readable e) (hp : model.property? id = some p)
    {op : Operator} (hfits : op.Fits p.kind) :
    m.Finds e (.compare ⟨id, op⟩) ((accepted objects id p op).map (·.1)) :=
  ⟨_, run_findIds_readable hmodel hobjects hid hreadable (by simp [Condition.size])
    (Comparison.resolve_eq_ok_iff.mpr ⟨p, hp, hfits, rfl⟩)⟩

/-- Each entry of a table that the schema describes is accepted by one comparison of a family. -/
theorem accepted_perm (h : model.Describes objects) (hp : model.property? id = some p)
    {ops : List Operator} (hops : Operator.Splits p.kind ops) :
    (ops.map (accepted objects id p)).flatten.Perm objects.toList := by
  refine flatten_filter_perm fun entry hentry => ?_
  obtain ⟨r, hr, hcarries⟩ := h entry.1 entry.2 (Table.mem_toList_iff.mp hentry)
  simp only [satisfies_compare hr]
  exact hops.countP_passes (hcarries id p hp)

/-- An object is accepted if its value passes the test. -/
theorem mem_accepted_iff {op : Operator} {bytes : Bytes} {r : Record}
    (hget : objects.get? o = some bytes) (hr : Record.decode bytes = .ok r) :
    o ∈ (accepted objects id p op).map (·.1) ↔ (op.test p.kind).passes (r.value id) = true := by
  have hsatisfies : satisfies (.compare id p.name (op.test p.kind)) bytes = _ :=
    satisfies_compare hr
  rw [← hsatisfies, List.mem_map]
  constructor
  · rintro ⟨⟨_, bytes'⟩, hmem, rfl⟩
    obtain ⟨hentry, hholds⟩ := List.mem_filter.mp hmem
    obtain rfl : bytes' = bytes :=
      Option.some.inj ((Table.mem_toList_iff.mp hentry).symm.trans hget)
    exact hholds
  · exact fun h =>
      ⟨(o, bytes), List.mem_filter.mpr ⟨Table.mem_toList_iff.mpr hget, h⟩, rfl⟩

theorem nodup_ids (objects : Table ObjectId Bytes) : (objects.toList.map (·.1)).Nodup :=
  List.pairwise_map.mpr (objects.ascending.imp fun h heq => Nat.ne_of_lt h (congrArg _ heq))

/-- If no entity was registered twice, each family of comparisons of a property splits the live
objects, and a comparison is undecided of the objects whose property is null alone. -/
theorem comparisons_split (limit : Option Nat) (writes : List Write)
    (honce : (writes.filterMap Write.registered?).Nodup) {e : EntityId} {model : EntityModel}
    (hmodel : (written limit writes).model e = .ok model) {id : PropertyId} {p : Property}
    (hp : model.property? id = some p) :
    (∀ ops, Operator.Splits p.kind ops → ∃ answers,
      List.Forall₂ (fun op ids => (written limit writes).Finds e (.compare ⟨id, op⟩) ids) ops
        answers ∧
      answers.flatten.Nodup ∧
      ∀ o, o ∈ answers.flatten ↔ ∃ bytes, (written limit writes).get e o = .ok (some bytes)) ∧
    ∀ op : Operator, op.Fits p.kind → op.demand?.isSome = true →
      ∃ ids, (written limit writes).Finds e (.compare ⟨id, op⟩) ids ∧
      ∀ o bytes, (written limit writes).get e o = .ok (some bytes) →
        ∃ r, Record.decode bytes = .ok r ∧
          (o ∈ ids ↔ (op.test p.kind).decision? (r.value id) = some true) ∧
          ((op.test p.kind).decision? (r.value id) = none ↔ r.value id = .null) := by
  -- the entity has a record table, and its schema describes what is in it
  obtain ⟨objects, hobjects⟩ := (paired_written limit writes).exists_objects hmodel
  have hid : model.id = e := filed_written limit writes e model (model_eq_ok_iff.mp hmodel)
  have hdescribes := conforms_written limit honce e model objects hmodel hobjects
  have hlive : ∀ {o bytes}, (written limit writes).get e o = .ok (some bytes) ↔
      (o, bytes) ∈ objects.toList := get_eq_ok_some_iff hobjects
  have hreadable : (written limit writes).Readable e := fun o bytes hget => by
    obtain ⟨r, hr, -⟩ := hdescribes o bytes (Table.mem_toList_iff.mp (hlive.mp hget))
    exact ⟨r, hr⟩
  constructor
  · intro ops hops
    -- the entries are split, and the ids are those of the entries
    have hperm := (accepted_perm hdescribes hp hops).map (·.1)
    rw [List.map_flatten, List.map_map] at hperm
    refine ⟨_, ?_, hperm.nodup_iff.mpr (nodup_ids objects), fun o => ?_⟩
    · rw [List.forall₂_map_right_iff, List.forall₂_same]
      exact fun op hop => finds_accepted hmodel hobjects hid hreadable hp (hops.fits op hop)
    · rw [hperm.mem_iff]
      simp [hlive]
  · intro op hfits hcomparison
    refine ⟨_, finds_accepted hmodel hobjects hid hreadable hp hfits, fun o bytes hget => ?_⟩
    have hstored := Table.mem_toList_iff.mp (hlive.mp hget)
    obtain ⟨r, hr, hcarries⟩ := hdescribes o bytes hstored
    refine ⟨r, hr, ?_, Operator.decision?_eq_none_iff hfits hcomparison (hcarries id p hp)⟩
    rw [mem_accepted_iff hstored hr, Test.passes_iff_decision?]

/-- Of an old, a young and a nameless age the young one is removed. The old one is no member of a
list that no age is in, and the nameless one is null. -/
theorem comparisons_split_people :
    let people : EntityModel := (EntityModel.new ⟨7⟩ "Person").declare ⟨3⟩ "age" (.integer .uint8)
    let writes : List Write := [.register people, .put ⟨7⟩ (.ofList [(⟨3⟩, .uint 41)]),
      .put ⟨7⟩ (.ofList [(⟨3⟩, .uint 12)]), .put ⟨7⟩ .empty, .remove ⟨7⟩ ⟨2⟩]
    let m := written none writes
    (m.Finds ⟨7⟩ (.compare ⟨⟨3⟩, .isNull⟩) [⟨3⟩] ∧
      m.Finds ⟨7⟩ (.compare ⟨⟨3⟩, .int32In [-1]⟩) [] ∧
      m.Finds ⟨7⟩ (.compare ⟨⟨3⟩, .int32NotIn [-1]⟩) [⟨1⟩] ∧
      ∀ o, o ∈ [⟨3⟩, ⟨1⟩] ↔ ∃ bytes, m.get ⟨7⟩ o = .ok (some bytes)) ∧
    m.Finds ⟨7⟩ (.compare ⟨⟨3⟩, .intNotEqual 12⟩) [⟨1⟩] ∧
      ∀ o bytes, m.get ⟨7⟩ o = .ok (some bytes) →
        ∃ r, Record.decode bytes = .ok r ∧
          (o = ⟨1⟩ ↔ (Test.int .ne 12).decision? (r.value ⟨3⟩) = some true) ∧
          ((Test.int .ne 12).decision? (r.value ⟨3⟩) = none ↔ r.value ⟨3⟩ = .null) := by
  intro people writes m
  have hmodel : m.model ⟨7⟩ = .ok people := rfl
  have hage : people.property? ⟨3⟩ = some ⟨⟨3⟩, ⟨7⟩, "age", .integer .uint8⟩ := rfl
  obtain ⟨hsplit, hdecided⟩ := comparisons_split none writes (by decide) hmodel hage
  obtain ⟨answers, hanswers, -, hlive⟩ := hsplit _ (.narrowMember (by decide) [-1])
  obtain ⟨ids, hfinds, hmem⟩ := hdecided (.intNotEqual 12) (.inr ⟨_, rfl⟩) rfl
  -- what each of the four queries finds is computed
  obtain _ | ⟨hnull, _ | ⟨hin, _ | ⟨hout, ⟨⟩⟩⟩⟩ := hanswers
  obtain rfl := hnull.eq_of_outcome [⟨3⟩] (by decide +kernel)
  obtain rfl := hin.eq_of_outcome [] (by decide +kernel)
  obtain rfl := hout.eq_of_outcome [⟨1⟩] (by decide +kernel)
  obtain rfl := hfinds.eq_of_outcome [⟨1⟩] (by decide +kernel)
  refine ⟨⟨hnull, hin, hout, hlive⟩, hfinds, fun o bytes hget => ?_⟩
  obtain ⟨r, hr, hfound, hundecided⟩ := hmem o bytes hget
  exact ⟨r, hr, List.mem_singleton.symm.trans hfound, hundecided⟩

end Memory

end EntityQuery
