import EntityQuery.Proofs.Exchanges
import EntityQuery.Proofs.FloatMagnitude
import EntityQuery.Proofs.NumberViews

/-!
# What can be stored

An object is stored exactly if its entity is registered and each of its values is one of the kind
that its property is declared with. Otherwise the store stays as it is, and of all the pairs that
are at fault the one with the smallest property is named (`Memory.put_decides`). The pieces, in
order:

* `Kind.Admits` says which values a kind has, and `Memory.admits_iff` that this is what is checked.
* `EntityModel.Offends` says what is at fault with one pair.
* `Table.forM_toList_eq_error_iff` finds the first fault among the entries of a table, which are in
  order.
* `Memory.Sequential` says which stores have not run out of ids, so that the next one is new.
-/

namespace EntityQuery

/-! ## The values of a kind

The store checks a value by comparing words: an integer against a power of two that is made by a
shift, a float by its absolute value. `Kind.Admits` says in numbers which values a kind has, and the
lemmas below say that the words are compared rightly. -/

/-- The values that can be stored under a property of a kind. The largest number of single width has
24 bits, all of them set. -/
inductive Kind.Admits : Kind → Value → Prop where
  | null (k : Kind) : Admits k .null
  | bool (b : Bool) : Admits .bool (.bool b)
  | signed {i : IntegerKind} {n : Int64} (hsigned : i.isSigned = true)
      (hlow : -2 ^ (i.width - 1) ≤ n.toInt) (hhigh : n.toInt < 2 ^ (i.width - 1)) :
      Admits (.integer i) (.int n)
  | unsigned {i : IntegerKind} {n : UInt64} (hunsigned : i.isSigned = false)
      (hhigh : n.toNat < 2 ^ i.width) : Admits (.integer i) (.uint n)
  | float64 {x : Float} (hfinite : x.isFinite = true) : Admits (.float .float64) (.float x)
  | float32 {x : Float} (hfinite : x.isFinite = true)
      (hmagnitude : magnitude x ≤ (2 - 2 ^ (-23 : ℤ)) * 2 ^ 127) :
      Admits (.float .float32) (.float x)
  | text (s : String) : Admits .text (.string s)
  | byteVector (b : Bytes) : Admits .byteVector (.bytes b)

namespace IntegerKind

variable {i : IntegerKind}

/-- The bounds of a kind with a sign are one shift away, but for the widest kinds. -/
theorem toInt_shift_signed (h : i.width ≠ 64) :
    ((1 : Int64) <<< Int64.ofNat (i.width - 1)).toInt = 2 ^ (i.width - 1) ∧
      (-((1 : Int64) <<< Int64.ofNat (i.width - 1))).toInt = -2 ^ (i.width - 1) := by
  cases i <;> revert h <;> decide

/-- The bound of a kind without a sign is one shift away, but for the widest kinds. -/
theorem toNat_shift_unsigned (h : i.width ≠ 64) :
    ((1 : UInt64) <<< UInt64.ofNat i.width).toNat = 2 ^ i.width := by
  cases i <;> revert h <;> decide

end IntegerKind

namespace Memory

variable {i : IntegerKind}

/-- A signed word is admitted if its number is one of a kind with a sign. -/
theorem admits_int_iff {n : Int64} :
    admits (.integer i) (.int n) = true ↔
      i.isSigned = true ∧ -2 ^ (i.width - 1) ≤ n.toInt ∧ n.toInt < 2 ^ (i.width - 1) := by
  simp only [admits, Kind.isSigned, Kind.width?, Option.any_some, Bool.and_eq_true,
    Bool.or_eq_true, beq_iff_eq, decide_eq_true_eq]
  refine and_congr_right fun _ => ?_
  by_cases h : i.width = 64
  · -- every word is in range
    rw [h]
    exact iff_of_true (.inl rfl) ⟨n.le_toInt, n.toInt_lt⟩
  · obtain ⟨hhigh, hlow⟩ := IntegerKind.toInt_shift_signed h
    rw [or_iff_right h, Int64.le_iff_toInt_le, Int64.lt_iff_toInt_lt, hhigh, hlow]

/-- An unsigned word is admitted if its number is one of a kind without a sign. -/
theorem admits_uint_iff {n : UInt64} :
    admits (.integer i) (.uint n) = true ↔ i.isSigned = false ∧ n.toNat < 2 ^ i.width := by
  simp only [admits, Kind.isUnsigned, Kind.width?, Option.any_some, Bool.and_eq_true,
    Bool.or_eq_true, beq_iff_eq, decide_eq_true_eq, Bool.not_eq_true']
  refine and_congr_right fun _ => ?_
  by_cases h : i.width = 64
  · -- every word is in range
    rw [h]
    exact iff_of_true (.inl rfl) n.toNat_lt
  · rw [or_iff_right h, UInt64.lt_iff_toNat_lt, IntegerKind.toNat_shift_unsigned h]

/-- The largest float of single width, exactly. -/
theorem magnitude_maxFloat32 :
    maxFloat32.isFinite = true ∧ maxFloat32.abs = maxFloat32 ∧
      magnitude maxFloat32 = (2 - 2 ^ (-23 : ℤ)) * 2 ^ 127 := by
  have hbits : Binary.ofBits maxFloat32.toBits = ⟨2 ^ 53 - 2 ^ 29, 75, false⟩ := by decide +kernel
  refine ⟨by decide +kernel, Float.toBits_inj.mp (by decide +kernel), ?_⟩
  rw [magnitude, hbits, Binary.value_eq]
  norm_num

/-- A float is admitted at single width if it is no larger than the largest of that width. -/
theorem admits_float32_iff {x : Float} :
    admits (.float .float32) (.float x) = true ↔
      x.isFinite = true ∧ magnitude x ≤ (2 - 2 ^ (-23 : ℤ)) * 2 ^ 127 := by
  obtain ⟨hmax, habs, hmagnitude⟩ := magnitude_maxFloat32
  rw [admits, Bool.and_eq_true, decide_eq_true_eq]
  refine and_congr_right fun hx => ?_
  rw [← hmagnitude, ← abs_le_abs_iff hx hmax, habs]

/-- What is checked of a value is that it is one of the kind. -/
theorem admits_iff {k : Kind} {v : Value} : admits k v = true ↔ k.Admits v := by
  constructor
  · intro h
    -- the value says which of the checks was made, and the kind whether it is the right one
    cases v with
    | null => exact .null k
    | bool b => cases of_decide_eq_true h; exact .bool b
    | int n =>
      cases k with
      | integer i =>
        obtain ⟨hsigned, hlow, hhigh⟩ := admits_int_iff.mp h
        exact .signed hsigned hlow hhigh
      | bool | float | text | byteVector => cases h
    | uint n =>
      cases k with
      | integer i =>
        obtain ⟨hunsigned, hhigh⟩ := admits_uint_iff.mp h
        exact .unsigned hunsigned hhigh
      | bool | float | text | byteVector => cases h
    | float x =>
      cases k with
      | float k =>
        cases k with
        | float64 => exact .float64 h
        | float32 =>
          obtain ⟨hfinite, hmagnitude⟩ := admits_float32_iff.mp h
          exact .float32 hfinite hmagnitude
      | bool | integer | text | byteVector => cases h
    | string s => cases of_decide_eq_true h; exact .text s
    | bytes b => cases of_decide_eq_true h; exact .byteVector b
  · intro h
    cases h with
    | null | bool | text | byteVector => rfl
    | signed hsigned hlow hhigh => exact admits_int_iff.mpr ⟨hsigned, hlow, hhigh⟩
    | unsigned hunsigned hhigh => exact admits_uint_iff.mpr ⟨hunsigned, hhigh⟩
    | float64 hfinite => exact hfinite
    | float32 hfinite hmagnitude => exact admits_float32_iff.mpr ⟨hfinite, hmagnitude⟩

end Memory

/-! ## One pair

A pair is at fault if its property is not declared, or declared with a kind that does not have the
value. It cannot be both, so the fault of a pair determines the error. -/

namespace EntityModel

/-- Whether a property is declared with a kind that has the value. -/
def Admits (model : EntityModel) (p : PropertyId) (v : Value) : Prop :=
  ∃ property, model.property? p = some property ∧ property.kind.Admits v

/-- What is at fault with a value under a property of an entity. -/
inductive Offends (model : EntityModel) (e : EntityId) (p : PropertyId) (v : Value) :
    Error → Prop where
  | undeclared (h : model.property? p = none) : Offends model e p v (.unknownProperty e p)
  | misfit {property : Property} (h : model.property? p = some property)
      (hv : ¬ property.kind.Admits v) :
      Offends model e p v (.typeMismatch p property.kind.name v.typeName)

end EntityModel

namespace Memory

variable {model : EntityModel} {e : EntityId} {p : PropertyId} {v : Value} {err : Error}

/-- A pair passes if its property is declared with a kind that has the value. -/
theorem check_eq_ok_iff_admits : check model e p v = .ok () ↔ model.Admits p v := by
  rw [check_eq_ok_iff]
  simp only [admits_iff, EntityModel.Admits]

/-- A pair is refused for the fault that it has. -/
theorem check_eq_error_iff : check model e p v = .error err ↔ model.Offends e p v err := by
  rw [check]
  constructor
  · intro h
    cases hp : model.property? p with
    | none =>
      rw [hp] at h
      cases h
      exact .undeclared hp
    | some property =>
      simp only [hp] at h
      split at h
      · cases h
      · rename_i hv
        cases h
        exact .misfit hp (mt admits_iff.mpr hv)
  · intro h
    cases h with
    | undeclared hp => rw [hp]
    | misfit hp hv => simp only [hp, if_neg (mt admits_iff.mp hv)]

end Memory

/-! ## The first fault

A map lists its pairs by property, and the check goes through the list. So the pair that is named is
the one at fault with the smallest property, whatever order the pairs were given in. -/

/-- A list is refused for its first member at fault. -/
theorem Memory.forM_eq_error_iff {ε α : Type} {f : α → Except ε Unit} {as : List α} {err : ε} :
    as.forM f = .error err ↔ ∃ before a after, as = before ++ a :: after ∧
      (∀ b ∈ before, f b = .ok ()) ∧ f a = .error err := by
  induction as with
  | nil => simp [pure, Except.pure]
  | cons a as ih =>
    have hcons : (a :: as).forM f = (f a >>= fun _ => as.forM f) := List.forM_cons
    rw [hcons, bind_eq_error]
    constructor
    · rintro (ha | ⟨_, ha, has⟩)
      · exact ⟨[], a, as, rfl, nofun, ha⟩
      · obtain ⟨before, a', after, rfl, hbefore, ha'⟩ := ih.mp has
        exact ⟨a :: before, a', after, rfl, List.forall_mem_cons.mpr ⟨ha, hbefore⟩, ha'⟩
    · rintro ⟨_ | ⟨b, before⟩, a', after, heq, hbefore, ha'⟩
      · obtain ⟨rfl, -⟩ := List.cons.inj heq
        exact .inl ha'
      · obtain ⟨rfl, rfl⟩ := List.cons.inj heq
        obtain ⟨ha, hrest⟩ := List.forall_mem_cons.mp hbefore
        exact .inr ⟨_, ha, ih.mpr ⟨before, a', after, rfl, hrest, ha'⟩⟩

/-- Of the entries of a table that are at fault, the one with the smallest key is found. -/
theorem Table.forM_toList_eq_error_iff {κ α ε : Type} [Key κ] {t : Table κ α}
    {f : κ × α → Except ε Unit} {err : ε} :
    t.toList.forM f = .error err ↔ ∃ k v, t.get? k = some v ∧ f (k, v) = .error err ∧
      ∀ k' v', t.get? k' = some v' → Key.rank k' < Key.rank k → f (k', v') = .ok () := by
  rw [Memory.forM_eq_error_iff]
  constructor
  · rintro ⟨before, ⟨k, v⟩, after, heq, hbefore, hfault⟩
    refine ⟨k, v, mem_toList_iff.mp (by simp [heq]), hfault, fun k' v' hv' hlt => ?_⟩
    have hmem := mem_toList_iff.mpr hv'
    have hascending := t.ascending
    rw [show t.entries = before ++ (k, v) :: after from heq] at hascending
    -- what follows has larger keys
    have habove := (List.pairwise_cons.mp (List.pairwise_append.mp hascending).2.1).1
    rw [heq, List.mem_append, List.mem_cons] at hmem
    rcases hmem with hmem | hmem | hmem
    · exact hbefore _ hmem
    · cases hmem
      exact absurd hlt (Nat.lt_irrefl _)
    · exact absurd hlt (Nat.lt_asymm (habove _ hmem))
  · rintro ⟨k, v, hv, hfault, hfirst⟩
    obtain ⟨before, after, heq⟩ := List.append_of_mem (mem_toList_iff.mpr hv)
    refine ⟨before, (k, v), after, heq, fun ⟨k', v'⟩ hmem => ?_, hfault⟩
    -- what comes before it has smaller keys
    have hascending := t.ascending
    rw [show t.entries = before ++ (k, v) :: after from heq] at hascending
    have hbelow := (List.pairwise_append.mp hascending).2.2 _ hmem _ List.mem_cons_self
    exact hfirst k' v' (mem_toList_iff.mp (by simp [heq, hmem])) hbelow

namespace Memory

variable {m m' : Memory} {model : EntityModel} {e : EntityId} {o : ObjectId}
  {properties : PropertyMap} {err : Error}

/-! ## Refusals

The entity is looked up before any pair, so an object of an unregistered entity is refused for that
alone. -/

/-- Why an object is refused: its entity is not registered, or one of its pairs is at fault and all
pairs with smaller properties are not. -/
inductive Rejects (m : Memory) (e : EntityId) (properties : PropertyMap) : Error → Prop where
  | unregistered (h : ∀ model, m.model e ≠ .ok model) : Rejects m e properties (.unknownEntity e)
  | offence {model : EntityModel} {p : PropertyId} {v : Value} {err : Error}
      (hmodel : m.model e = .ok model) (hp : properties.get? p = some v)
      (herr : model.Offends e p v err)
      (hfirst : ∀ p' v', properties.get? p' = some v' → p'.val < p.val → model.Admits p' v') :
      Rejects m e properties err

/-- A schema is missing if there is none, and this is the only reason. -/
theorem model_eq_error_iff :
    m.model e = .error err ↔ (∀ model, m.model e ≠ .ok model) ∧ err = .unknownEntity e := by
  rw [Memory.model]
  cases m.schemas.get? e <;> simp [eq_comm]

/-- An object is valid if its entity is registered and each of its values is one of the declared
kind. -/
theorem validate_eq_ok_iff_admits :
    m.validate e properties = .ok () ↔ ∃ model, m.model e = .ok model ∧
      ∀ p v, properties.get? p = some v → model.Admits p v := by
  rw [validate_eq_ok_iff]
  simp only [admits_iff, EntityModel.Admits]

/-- The store looks for the entity and then at one pair after the other. -/
theorem validate_eq_error_iff :
    m.validate e properties = .error err ↔ m.Rejects e properties err := by
  rw [validate, bind_eq_error]
  constructor
  · rintro (hmodel | ⟨model, hmodel, hcheck⟩)
    · obtain ⟨hnone, rfl⟩ := model_eq_error_iff.mp hmodel
      exact .unregistered hnone
    · obtain ⟨p, v, hv, herr, hfirst⟩ := Table.forM_toList_eq_error_iff.mp hcheck
      refine .offence hmodel hv (check_eq_error_iff.mp herr) fun p' v' hv' hlt => ?_
      exact check_eq_ok_iff_admits.mp (hfirst p' v' hv' (UInt32.lt_iff_toNat_lt.mp hlt))
  · intro h
    cases h with
    | unregistered hmodel => exact .inl (model_eq_error_iff.mpr ⟨hmodel, rfl⟩)
    | offence hmodel hv herr hfirst =>
      refine .inr ⟨_, hmodel, Table.forM_toList_eq_error_iff.mpr
        ⟨_, _, hv, check_eq_error_iff.mpr herr, fun p' v' hv' hlt => ?_⟩⟩
      exact check_eq_ok_iff_admits.mpr (hfirst p' v' hv' (UInt32.lt_iff_toNat_lt.mpr hlt))

theorem put_eq_ok_iff :
    (∃ o, ((put e properties).run m).1 = .ok o) ↔ m.validate e properties = .ok () := by
  rw [run_put]
  cases m.validate e properties <;> simp

/-- An object that is not valid is refused for the reason that it is not. -/
theorem put_eq_error_iff :
    ((put e properties).run m).1 = .error err ↔ m.validate e properties = .error err := by
  rw [run_put]
  cases m.validate e properties <;> simp

/-! ## The new object

A valid object gets the next id. That nothing is stored under it yet is an invariant of the stores
whose count has not come round: all that is stored is numbered below the count. The count has 64
bits, so it comes round only after that many objects. -/

/-- The stores that a fresh one becomes by writes and by calls of its engine while its count of
objects does not come round. -/
inductive Sequential : Memory → Prop where
  | new (limit : Option Nat) : Sequential (.new limit)
  | write {m : Memory} (w : Write) (h : Sequential m) (hroom : (m.write w).nextObject ≠ 0) :
      Sequential (m.write w)
  | call {m : Memory} (c : Call engine) (h : Sequential m) : Sequential (c.perform.run m).2

/-- Every object has an id below the one that is given next. -/
def Numbered (m : Memory) : Prop :=
  m.Stores fun o _ => o.val.toNat < m.nextObject.toNat

theorem toNat_add_one {n : UInt64} (h : n + 1 ≠ 0) : (n + 1).toNat = n.toNat + 1 := by
  have hone : (1 : UInt64).toNat = 1 := rfl
  have hlt := n.toNat_lt
  rw [ne_eq, ← UInt64.toNat_inj, UInt64.toNat_add, hone, UInt64.toNat_zero] at h
  rw [UInt64.toNat_add, hone]
  omega

/-- What a write may do keeps all objects numbered below the count, unless the count comes round. -/
theorem Numbered.writes (h : m.Numbered) (hm' : m.Writes m') (hroom : m'.nextObject ≠ 0) :
    m'.Numbered := by
  cases hm' with
  | register model => exact Stores.register h model
  | remove hobjects o => exact Stores.removed h hobjects o
  | refuse => exact h
  | @store e properties hvalid =>
    have hnext : (m.stored e properties).nextObject.toNat = m.nextObject.toNat + 1 :=
      toNat_add_one hroom
    show Stores (fun o _ => o.val.toNat < (m.stored e properties).nextObject.toNat) _
    rw [hnext]
    -- what was stored is below the old count, and the new object is at it
    have hwider : m.Stores fun o _ => o.val.toNat < m.nextObject.toNat + 1 :=
      fun e o bytes hget => Nat.lt_succ_of_lt (h e o bytes hget)
    exact hwider.stored (Nat.lt_succ_self _)

/-- In every store whose count has not come round, all objects are numbered below it. -/
theorem Sequential.numbered (h : m.Sequential) : m.Numbered := by
  induction h with
  | new limit =>
    intro e o bytes hget
    obtain ⟨objects, hobjects, -⟩ := get_eq_ok_some.mp hget
    cases hobjects
  | @write m w _ hroom ih => exact ih.writes (m.writes_write w) hroom
  | @call m c _ ih =>
    have hkept := m.tables_call c
    show Stores (fun o _ => o.val.toNat < (c.perform.run m).2.nextObject.toNat) _
    rw [hkept.nextObject]
    exact Stores.of_records_eq ih hkept.records

/-- A store that has not run out of ids is one that a store can be. -/
theorem Sequential.reachable (h : m.Sequential) : m.Reachable := by
  induction h with
  | new limit => exact .new limit
  | write w _ _ ih => exact ih.write w
  | call c _ ih => exact ih.call c

/-- The store with one object more, and nothing else changed. Its id was free, unless the ids have
come round. -/
structure Gains (m m' : Memory) (e : EntityId) (o : ObjectId) (bytes : Bytes) : Prop where
  id : o = ⟨m.nextObject⟩
  next : m'.nextObject = m.nextObject + 1
  models : ∀ e', m'.model e' = m.model e'
  records : ∀ e' o', m'.record? e' o' = if e' = e ∧ o' = o then some bytes else m.record? e' o'
  /-- Where schemas and record tables go together, as they do in every state that a store can be in,
  all that is read stays as it was but for the new object. -/
  shown : m.Paired → ∀ e' o', m'.get e' o' =
    if e' = e ∧ o' = o then .ok (some bytes) else m.get e' o'
  rest : m' = { m with records := m'.records, nextObject := m'.nextObject }
  new : m.Sequential → m.get e o = .ok none

theorem get_eq (m : Memory) (e : EntityId) (o : ObjectId) :
    m.get e o = if (m.records.get? e).isSome then .ok (m.record? e o)
      else .error (.unknownEntity e) := by
  cases hobjects : m.records.get? e with
  | some objects => exact get_of_objects (objects_eq_ok_iff.mpr hobjects) o
  | none =>
    rw [get, objects_of_get?_eq_none hobjects]
    rfl

/-- A store that took an object has it under the next id, and is as before but for that. -/
theorem gains_of_put (h : (put e properties).run m = (.ok o, m')) :
    m.Gains m' e o (Record.encode ⟨o, properties⟩) := by
  obtain ⟨hvalid, rfl, rfl⟩ := run_put_eq_ok_iff.mp h
  obtain ⟨model, hmodel⟩ := exists_model_of_validate hvalid
  have hrecords : ∀ e' o', (m.stored e properties).record? e' o' =
      if e' = e ∧ o' = ⟨m.nextObject⟩ then some (Record.encode ⟨⟨m.nextObject⟩, properties⟩)
      else m.record? e' o' := by
    intro e' o'
    rw [record?_stored]
    split
    · rename_i hnew
      rw [hnew.2]
    · rfl
  refine ⟨rfl, rfl, fun _ => rfl, hrecords, fun hpaired e' o' => ?_, rfl, fun hm => ?_⟩
  · -- no entity gets a record table that it did not have
    have hsame : ((m.stored e properties).records.get? e').isSome = (m.records.get? e').isSome := by
      rw [← hpaired.writes (.store hvalid), ← hpaired]
      rfl
    rw [get_eq, get_eq, hsame, hrecords]
    by_cases hnew : e' = e ∧ o' = ⟨m.nextObject⟩
    · obtain ⟨objects, hobjects⟩ := hpaired.exists_objects hmodel
      rw [if_pos hnew, if_pos hnew, hnew.1, objects_eq_ok_iff.mp hobjects]
      rfl
    · rw [if_neg hnew, if_neg hnew]
  · -- an object stored under the next id would be numbered below itself
    obtain ⟨objects, hobjects⟩ := hm.reachable.paired.exists_objects hmodel
    have hget := get_of_objects hobjects ⟨m.nextObject⟩
    cases hrecord : m.record? e ⟨m.nextObject⟩ with
    | none => rw [hget, hrecord]
    | some bytes =>
      rw [hrecord] at hget
      exact absurd (hm.numbered e _ bytes hget) (Nat.lt_irrefl _)

/-- An object is stored exactly if its entity is registered and each of its values is one of the
kind of a declared property. What refuses it is the entity, or else the pair at fault with the
smallest property; the store is then as before. A store that took the object has it under the next
id, and is as before but for that. -/
theorem put_decides (m : Memory) (e : EntityId) (properties : PropertyMap) :
    ((∃ o, ((put e properties).run m).1 = .ok o) ↔ ∃ model, m.model e = .ok model ∧
      ∀ p v, properties.get? p = some v → model.Admits p v) ∧
    (∀ err, ((put e properties).run m).1 = .error err ↔ m.Rejects e properties err) ∧
    (∀ err, ((put e properties).run m).1 = .error err → ((put e properties).run m).2 = m) ∧
    ∀ o m', (put e properties).run m = (.ok o, m') →
      m.Gains m' e o (Record.encode ⟨o, properties⟩) :=
  ⟨put_eq_ok_iff.trans validate_eq_ok_iff_admits,
    fun _ => put_eq_error_iff.trans validate_eq_error_iff,
    atomic_put e properties m, fun _ _ => gains_of_put⟩

/-- The largest number of an unsigned kind is stored together with a float of single width. A number
above it is refused, and is named before the property that is not declared. -/
theorem put_decides_people :
    let people : EntityModel := ((EntityModel.new ⟨7⟩ "Person").declare ⟨3⟩ "age"
      (.integer .uint8)).declare ⟨4⟩ "score" (.float .float32)
    let m := (new none).write (.register people)
    let good : PropertyMap := .ofList [(⟨4⟩, .float 1.5), (⟨3⟩, .uint 255)]
    let bad : PropertyMap := .ofList [(⟨9⟩, .null), (⟨3⟩, .uint 256)]
    (∃ m', (put ⟨7⟩ good).run m = (.ok ⟨1⟩, m') ∧ m.get ⟨7⟩ ⟨1⟩ = .ok none ∧
      m'.get ⟨7⟩ ⟨1⟩ = .ok (some (Record.encode ⟨⟨1⟩, good⟩))) ∧
    (put ⟨7⟩ bad).run m = (.error (.typeMismatch ⟨3⟩ "UInt8" "UNSIGNED"), m) := by
  intro people m good bad
  have hm : m.Sequential := .write _ (.new none) (by decide)
  have hmodel : m.model ⟨7⟩ = .ok people := rfl
  have hsingle : magnitude 1.5 ≤ (2 - 2 ^ (-23 : ℤ)) * 2 ^ 127 := by
    have hbits : Binary.ofBits (1.5 : Float).toBits = ⟨3 * 2 ^ 51, -52, false⟩ := by decide +kernel
    rw [magnitude, hbits, Binary.value_eq]
    norm_num
  have hadmits : ∀ p v, good.get? p = some v → people.Admits p v := by
    intro p v hv
    have hmem : (p, v) ∈ [((⟨3⟩ : PropertyId), Value.uint 255), (⟨4⟩, .float 1.5)] :=
      Table.mem_toList_iff.mpr hv
    simp only [List.mem_cons, List.not_mem_nil, or_false] at hmem
    rcases hmem with heq | heq <;> cases heq
    · exact ⟨_, rfl, .unsigned rfl (by decide)⟩
    · exact ⟨_, rfl, .float32 (by decide +kernel) hsingle⟩
  have hmisfit : ¬ (Kind.integer .uint8).Admits (.uint 256) := by
    rintro (_ | _ | _ | ⟨-, hhigh⟩)
    exact absurd hhigh (by decide)
  obtain ⟨hok, -, -, hgains⟩ := put_decides m ⟨7⟩ good
  obtain ⟨-, herror, hsame, -⟩ := put_decides m ⟨7⟩ bad
  have hage : people.property? ⟨3⟩ = some ⟨⟨3⟩, ⟨7⟩, "age", .integer .uint8⟩ := rfl
  have hoffends : people.Offends ⟨7⟩ ⟨3⟩ (.uint 256) (.typeMismatch ⟨3⟩ "UInt8" "UNSIGNED") :=
    .misfit hage hmisfit
  have hfirst : ∀ p v, bad.get? p = some v → p.val < 3 → people.Admits p v := by
    intro p v hv hlt
    have hmem : (p, v) ∈ [((⟨3⟩ : PropertyId), Value.uint 256), (⟨9⟩, .null)] :=
      Table.mem_toList_iff.mpr hv
    simp only [List.mem_cons, List.not_mem_nil, or_false] at hmem
    rcases hmem with heq | heq <;> cases heq <;> exact absurd hlt (by decide)
  have hrefused := (herror _).mpr (.offence hmodel rfl hoffends hfirst)
  obtain ⟨o, hput⟩ := hok.mpr ⟨people, hmodel, hadmits⟩
  have hnew := hgains o _ (Prod.ext hput rfl)
  obtain rfl : o = ⟨1⟩ := hnew.id
  have hshown := (hnew.shown hm.reachable.paired ⟨7⟩ ⟨1⟩).trans (if_pos ⟨rfl, rfl⟩)
  exact ⟨⟨_, Prod.ext hput rfl, hnew.new hm, hshown⟩, Prod.ext hrefused (hsame _ hrefused)⟩

end Memory

end EntityQuery
