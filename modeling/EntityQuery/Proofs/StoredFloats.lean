import EntityQuery.Condition.View
import EntityQuery.Proofs.ExactFloats
import EntityQuery.Proofs.StoredRecords

/-!
# Queries compare with the floats that are read

A float is stored as decimal text. What is read later, and what a query compares its operands with,
is the float that the text is read as (`Memory.findIds_put_float`). That is not always the float
that was put, since the digits are scaled by a rounded power of ten and the result is rounded again
(`Memory.findIds_put_float_misses`). It is for floats with short texts.

* `Memory.Reachable.mem_findIds` says whether a query finds an object whose record is known.
* `Memory.get_put` says what is stored under the id that `put` gives.
-/

namespace EntityQuery

theorem isNaN_of_isFinite {x : Float} (h : x.isFinite = true) : x.isNaN = false := by
  have hfinite : x.toModel.unpack.isFinite = true := h
  show x.toModel.unpack.isNaN = false
  revert hfinite
  cases x.toModel.unpack <;> simp [Float.Model.UnpackedFloat.isFinite,
    Float.Model.UnpackedFloat.isNaN]

namespace Memory

variable {m m' : Memory} {e : EntityId} {model : EntityModel} {o : ObjectId}

/-! ## An object that was put

What is under an id after a put is the encoded record of what was put. A query finds the object by
what that record is decoded to, not by what was put. -/

theorem Reachable.put (h : m.Reachable) {properties : PropertyMap}
    (hput : (put e properties).run m = (.ok o, m')) : m'.Reachable := by
  have hwrite := h.write (.put e properties)
  rwa [Memory.write, hput] at hwrite

theorem model_put {properties : PropertyMap} (hmodel : m.model e = .ok model)
    (hput : (put e properties).run m = (.ok o, m')) : m'.model e = .ok model := by
  obtain ⟨-, -, rfl⟩ := run_put_eq_ok_iff.mp hput
  exact hmodel

/-- Under the id that a put gives there is the encoded record of what was put. -/
theorem get_put {properties : PropertyMap} (hput : (put e properties).run m = (.ok o, m')) :
    m'.get e o = .ok (some (Record.encode ⟨o, properties⟩)) := by
  obtain ⟨-, rfl, rfl⟩ := run_put_eq_ok_iff.mp hput
  simp [get_eq_ok_some, stored, file, Table.update, Table.get?_insert]

/-- A query finds an object exactly if its condition holds of the object's record. -/
theorem Reachable.mem_findIds (h : m.Reachable) (hmodel : m.model e = .ok model) {c : Condition}
    (haccepted : c.AcceptedBy model) (hsize : c.size ≤ 2 ^ 32) {bytes : Bytes} {r : Record}
    (hget : m.get e o = .ok (some bytes)) (hr : Record.decode bytes = .ok r) :
    ∃ ids s, (Query.findIds engine).run (m, ⟨e, c, none⟩) = (.ok ids, s) ∧
      (o ∈ ids ↔ c.Holds model r) := by
  obtain ⟨objects, hobjects⟩ := h.paired.exists_objects hmodel
  obtain ⟨p, hp⟩ := Condition.exists_resolve_iff.mpr haccepted
  have hid : model.id = e := h.filed e model (model_eq_ok_iff.mp hmodel)
  refine ⟨_, _, run_findIds_readable hmodel hobjects hid (h.readable e) hsize hp, ?_⟩
  have hstored := (get_eq_ok_some_iff hobjects).mp hget
  -- there is one record under an id, so the record that is filtered is the one that is known
  have hunique : ∀ bytes', (o, bytes') ∈ objects.toList → bytes' = bytes := by
    intro bytes' hmem
    rw [Table.mem_toList_iff] at hmem hstored
    exact Option.some.inj (hmem.symm.trans hstored)
  simp only [List.mem_map, List.mem_filter, satisfies_iff]
  rw [← Condition.holds_of_resolve hp r]
  constructor
  · rintro ⟨⟨_, bytes'⟩, ⟨hmem, r', hr', hholds⟩, rfl⟩
    rw [hunique bytes' hmem, hr] at hr'
    rwa [Except.ok.inj hr']
  · exact fun hholds => ⟨(o, bytes), ⟨hstored, r, hr, hholds⟩, rfl⟩

/-! ## A float that was put

With a single float stored, each query of a float view asks one thing of the float that is read. If
the text of the float is short, that is the float that was put. -/

/-- A finite float fits a property of floats, so it is stored. -/
theorem put_float {p : Property} {v : Float} (hmodel : m.model e = .ok model)
    (hp : model.property? p.id = some p) (hkind : p.kind = .float .float64)
    (hv : v.isFinite = true) :
    ∃ o m', (put e (.ofList [(p.id, .float v)])).run m = (.ok o, m') := by
  refine ⟨_, _, run_put_eq_ok_iff.mpr ⟨validate_eq_ok_iff.mpr ⟨model, hmodel, ?_⟩, rfl, rfl⟩⟩
  intro q value hvalue
  rw [← Table.mem_toList_iff] at hvalue
  obtain ⟨rfl, rfl⟩ := Prod.mk.inj (List.mem_singleton.mp hvalue)
  exact ⟨p, hp, by rw [hkind]; exact hv⟩

/-- A float operator finds an object by the float that its property is read as. -/
theorem findIds_put_float_iff {p : Property} {v w : Float} (op : Operator) (P : Float → Prop)
    (hm : m.Reachable) (hmodel : m.model e = .ok model) (hp : model.property? p.id = some p)
    (hkind : p.kind = .float .float64)
    (hput : (put e (.ofList [(p.id, .float v)])).run m = (.ok o, m'))
    (hread : ∃ bytes, m'.get e o = .ok (some bytes) ∧
      Record.decode bytes = .ok ⟨o, .ofList [(p.id, .float w)]⟩)
    (hfits : op.Fits (.float .float64))
    (hholds : ∀ value, op.Holds (.float .float64) value ↔ value.IsFloat P) :
    ∃ ids s, (Query.findIds engine).run (m', ⟨e, .compare ⟨p.id, op⟩, none⟩) = (.ok ids, s) ∧
      (o ∈ ids ↔ P w) := by
  obtain ⟨bytes, hget, hr⟩ := hread
  have haccepted : (Condition.compare ⟨p.id, op⟩).AcceptedBy model := by
    refine List.forall_mem_singleton.mpr ⟨p, hp, ?_⟩
    rwa [hkind]
  obtain ⟨ids, s, hrun, hmem⟩ := (hm.put hput).mem_findIds (model_put hmodel hput) haccepted
    (by simp [Condition.size]) hget hr
  refine ⟨ids, s, hrun, hmem.trans ?_⟩
  have hvalue : Record.value ⟨o, .ofList [(p.id, .float w)]⟩ p.id = .float w := by
    simp [Record.value, Table.ofList, Table.get?_insert]
  rw [Condition.holds_compare_iff, Comparison.Holds]
  simp [hp, hkind, hvalue, hholds, Value.IsFloat]

/-- The record of a float is decoded with the float that its text is read as. -/
theorem decode_put_float {p : PropertyId} {v w : Float} (hv : v.isFinite = true)
    (hw : restored? v = some w) (hput : (put e (.ofList [(p, .float v)])).run m = (.ok o, m')) :
    ∃ bytes, m'.get e o = .ok (some bytes) ∧
      Record.decode bytes = .ok ⟨o, .ofList [(p, .float w)]⟩ := by
  refine ⟨_, get_put hput, Record.decode_encode_of_forall₂ rfl ?_⟩
  exact .cons ⟨rfl, Value.readsAs_float (JsonForm.readsAs_float hv hw)⟩ .nil

/-- A finite float that is put is stored, its record is read with the float that its text is read
as, and the queries of a view compare with that one. It is the float that was put if the text is
short. -/
theorem findIds_put_float (hm : m.Reachable) (hmodel : m.model e = .ok model)
    (view : FloatView .float64) (hp : model.property? view.property.id = some view.property)
    (hkind : view.property.kind = .float .float64) {v : Float} (hv : v.isFinite = true) :
    ∃ o m' w, (put e (.ofList [(view.property.id, .float v)])).run m = (.ok o, m') ∧
      restored? v = some w ∧ ((Layout.json.numeralOfFloat v).IsShort → w = v) ∧
      (∃ bytes, m'.get e o = .ok (some bytes) ∧
        Record.decode bytes = .ok ⟨o, .ofList [(view.property.id, .float w)]⟩) ∧
      (∃ ids s, (Query.findIds engine).run (m', ⟨e, view.between v v, none⟩) = (.ok ids, s) ∧
        (o ∈ ids ↔ v ≤ w ∧ w ≤ v)) ∧
      (∃ ids s, (Query.findIds engine).run (m', ⟨e, view.greaterThan v, none⟩) = (.ok ids, s) ∧
        (o ∈ ids ↔ w > v)) ∧
      ∃ ids s, (Query.findIds engine).run (m', ⟨e, view.lessThan v, none⟩) = (.ok ids, s) ∧
        (o ∈ ids ↔ w < v) := by
  obtain ⟨o, m', hput⟩ := put_float hmodel hp hkind hv
  obtain ⟨w, hw⟩ := Option.isSome_iff_exists.mp (restored?_isSome hv)
  have hread := decode_put_float hv hw hput
  have hnan := isNaN_of_isFinite hv
  have hshort (h : (Layout.json.numeralOfFloat v).IsShort) : w = v :=
    Option.some.inj (hw.symm.trans (restored?_eq_self hv h))
  refine ⟨o, m', w, hput, hw, hshort, hread, ?_, ?_, ?_⟩
  · exact findIds_put_float_iff (.doubleBetween v v) (fun x => v ≤ x ∧ x ≤ v) hm hmodel hp hkind
      hput hread ⟨⟨_, rfl⟩, hnan, hnan⟩ fun _ => .rfl
  · exact findIds_put_float_iff (.doubleGreater v) (· > v) hm hmodel hp hkind hput hread
      ⟨⟨_, rfl⟩, hnan⟩ fun _ => .rfl
  · exact findIds_put_float_iff (.doubleLess v) (· < v) hm hmodel hp hkind hput hread
      ⟨⟨_, rfl⟩, hnan⟩ fun _ => .rfl

/-- The text of `0.1` is short, so a query for that number finds the object. -/
theorem findIds_put_float_gauge :
    let gauge : EntityModel := (EntityModel.new ⟨7⟩ "Gauge").declare ⟨1⟩ "level" (.float .float64)
    let level : FloatView .float64 := ⟨⟨⟨1⟩, ⟨7⟩, "level", .float .float64⟩⟩
    let m := (Memory.new none).write (.register gauge)
    let v := Float.ofBits 0x3FB999999999999A
    ∃ o m', (put ⟨7⟩ (.ofList [(⟨1⟩, .float v)])).run m = (.ok o, m') ∧ restored? v = some v ∧
      (∃ bytes, m'.get ⟨7⟩ o = .ok (some bytes) ∧
        Record.decode bytes = .ok ⟨o, .ofList [(⟨1⟩, .float v)]⟩) ∧
      (∃ ids s, (Query.findIds engine).run (m', ⟨⟨7⟩, level.between v v, none⟩) = (.ok ids, s) ∧
        o ∈ ids) ∧
      (∃ ids s, (Query.findIds engine).run (m', ⟨⟨7⟩, level.greaterThan v, none⟩) = (.ok ids, s) ∧
        o ∉ ids) ∧
      ∃ ids s, (Query.findIds engine).run (m', ⟨⟨7⟩, level.lessThan v, none⟩) = (.ok ids, s) ∧
        o ∉ ids := by
  intro gauge level m v
  have hmodel : m.model ⟨7⟩ = .ok gauge := rfl
  have hv : v.isFinite = true := by decide +kernel
  obtain ⟨o, m', w, hput, hw, hshort, hread, ⟨ids, s, hbetween, hids⟩, ⟨ids₁, s₁, hgreater, hids₁⟩,
    ids₂, s₂, hless, hids₂⟩ :=
    findIds_put_float (.write (.register gauge) (.new none)) hmodel level rfl rfl hv
  obtain rfl : w = v := hshort (by decide +kernel)
  exact ⟨o, m', hput, hw, hread, ⟨ids, s, hbetween, hids.mpr (by decide +kernel)⟩,
    ⟨ids₁, s₁, hgreater, hids₁.not.mpr (by decide +kernel)⟩,
    ids₂, s₂, hless, hids₂.not.mpr (by decide +kernel)⟩

/-- The text of `1e-23` is read as the next float above it, so a query for that number misses the
object, and a query for greater numbers finds it. -/
theorem findIds_put_float_misses :
    let gauge : EntityModel := (EntityModel.new ⟨7⟩ "Gauge").declare ⟨1⟩ "level" (.float .float64)
    let level : FloatView .float64 := ⟨⟨⟨1⟩, ⟨7⟩, "level", .float .float64⟩⟩
    let m := (Memory.new none).write (.register gauge)
    let v := Float.ofBits 0x3B282DB34012B251
    v.isFinite = true ∧ ∃ o m' w, (put ⟨7⟩ (.ofList [(⟨1⟩, .float v)])).run m = (.ok o, m') ∧
      (∃ bytes, m'.get ⟨7⟩ o = .ok (some bytes) ∧
        Record.decode bytes = .ok ⟨o, .ofList [(⟨1⟩, .float w)]⟩) ∧
      w.toBits = 0x3B282DB34012B252 ∧
      (∃ ids s, (Query.findIds engine).run (m', ⟨⟨7⟩, level.between v v, none⟩) = (.ok ids, s) ∧
        o ∉ ids) ∧
      ∃ ids s, (Query.findIds engine).run (m', ⟨⟨7⟩, level.greaterThan v, none⟩) = (.ok ids, s) ∧
        o ∈ ids := by
  intro gauge level m v
  have hm : m.Reachable := .write _ (.new none)
  have hv : v.isFinite = true := by decide +kernel
  have hw : restored? v = some (.ofBits 0x3B282DB34012B252) := by decide +kernel
  have hmodel : m.model ⟨7⟩ = .ok gauge := rfl
  have hp : gauge.property? level.property.id = some level.property := rfl
  obtain ⟨o, m', hput⟩ := put_float (p := level.property) hmodel hp rfl hv
  have hread := decode_put_float hv hw hput
  have hnan := isNaN_of_isFinite hv
  -- the float that is read is the next one, which is greater than the one that was put
  refine ⟨hv, o, m', _, hput, hread, by decide +kernel, ?_, ?_⟩
  · obtain ⟨ids, s, hrun, hmem⟩ := findIds_put_float_iff (.doubleBetween v v)
      (fun x => v ≤ x ∧ x ≤ v) hm hmodel hp rfl hput hread ⟨⟨_, rfl⟩, hnan, hnan⟩ fun _ => .rfl
    exact ⟨ids, s, hrun, hmem.not.mpr (by decide +kernel)⟩
  · obtain ⟨ids, s, hrun, hmem⟩ := findIds_put_float_iff (.doubleGreater v) (· > v) hm hmodel hp
      rfl hput hread ⟨⟨_, rfl⟩, hnan⟩ fun _ => .rfl
    exact ⟨ids, s, hrun, hmem.mpr (by decide +kernel)⟩

end Memory

end EntityQuery
