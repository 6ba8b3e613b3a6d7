import EntityQuery.TypedRead
import Mathlib

/-!
# Typed reads keep the number

Reading a property as an integer type gives the number that is stored or no number at all
(`Record.get_decides`). The pieces, in order:

* `Value.IsInteger` says which number an integer value is, whichever of the two shapes it has, and
  the two conversions `asInt?` and `asUInt?` are characterised by it: they never wrap.
* `ReadType.fromValue_eq_ok_iff` does the same for the four integer types, where the narrow ones
  convert twice.
* `ReadType.eq_typeMismatch_of_fromValue` says what a refusal is before it knows its property, at
  any depth of optional types, and `Error.blaming` puts the property in.
-/

namespace EntityQuery

/-! ## Integer values

An integer is stored in one of two shapes, with a sign or without. Both conversions look at the
number and not at the shape: each gives the number as a word of its own kind, or nothing if it has
no such word. -/

/-- The number that an integer value is. -/
inductive Value.IsInteger : Value → Int → Prop where
  | int (n : Int64) : IsInteger (.int n) n.toInt
  | uint (n : UInt64) : IsInteger (.uint n) n.toNat

namespace Value

/-- Read with a sign, a value gives the number that it is. -/
theorem asInt?_eq_some_iff {v : Value} {a : Int64} :
    v.asInt? = some a ↔ v.IsInteger a.toInt := by
  constructor
  · intro h
    cases v with
    | int n => cases h; exact .int a
    | uint n =>
      rw [asInt?, Option.ite_none_right_eq_some] at h
      obtain ⟨hfits, ha⟩ := h
      cases ha
      -- a word without a sign is taken over if it is not beyond the signed ones
      have hmax : Int64.maxValue.toInt = 2 ^ 63 - 1 := by decide
      rw [Int64.toInt_ofNat_of_lt (by omega)]
      exact .uint n
    | null | bool | float | string | bytes => cases h
  · intro h
    generalize hn : a.toInt = n at h
    cases h with
    | int m => rw [asInt?, Int64.toInt_inj.mp hn]
    | uint m =>
      have hmax : Int64.maxValue.toInt = 2 ^ 63 - 1 := by decide
      have ha := a.toInt_lt
      have hword : Int64.ofNat m.toNat = a := by
        apply Int64.toInt_inj.mp
        rw [Int64.toInt_ofNat_of_lt (by omega), hn]
      rw [asInt?, if_pos (by omega), hword]

theorem asUInt?_eq_some_iff {v : Value} {a : UInt64} :
    v.asUInt? = some a ↔ v.IsInteger a.toNat := by
  constructor
  · intro h
    cases v with
    | uint n => cases h; exact .uint a
    | int n =>
      rw [asUInt?, Option.ite_none_right_eq_some] at h
      obtain ⟨hsign, ha⟩ := h
      cases ha
      -- a signed word is taken over if it is not negative
      have hn := n.toInt_lt
      rw [UInt64.toNat_ofNat_of_lt' (show _ < 2 ^ 64 by omega), Int.toNat_of_nonneg hsign]
      exact .int n
    | null | bool | float | string | bytes => cases h
  · intro h
    generalize hn : (a.toNat : Int) = n at h
    cases h with
    | uint m => rw [asUInt?, UInt64.toNat_inj.mp (Int.ofNat.inj hn)]
    | int m =>
      have hsign : 0 ≤ m.toInt := hn ▸ Int.natCast_nonneg a.toNat
      rw [asUInt?, if_pos hsign, ← hn, Int.toNat_natCast, UInt64.ofNat_toNat]

end Value

namespace ReadType

/-! ## Integer types

Four of the types are integer types, each with a range of its own. Every number of the range is a
member of the type, and no other is. -/

/-- The number that a member of an integer type is. -/
def number? : (t : ReadType) → t.Carrier → Option Int
  | int64, n => some n.toInt
  | int32, n => some n.toInt
  | uint64, n => some n.toNat
  | uint32, n => some n.toNat
  | string, _ | float, _ | bool, _ | bytes, _ | optional _, _ => none

/-- The range of an integer type. No number is in the range of another type. -/
def InRange : ReadType → Int → Prop
  | int64, n => -2 ^ 63 ≤ n ∧ n < 2 ^ 63
  | int32, n => -2 ^ 31 ≤ n ∧ n < 2 ^ 31
  | uint64, n => 0 ≤ n ∧ n < 2 ^ 64
  | uint32, n => 0 ≤ n ∧ n < 2 ^ 32
  | string, _ | float, _ | bool, _ | bytes, _ | optional _, _ => False

/-- The numbers of a type are those of its range. -/
theorem inRange_iff_exists (t : ReadType) (n : Int) :
    t.InRange n ↔ ∃ a, t.number? a = some n := by
  cases t with
  | int64 =>
    constructor
    · intro h
      exact ⟨Int64.ofInt n, congrArg some (Int64.toInt_ofInt_of_le h.1 h.2)⟩
    · rintro ⟨a, ha⟩
      cases ha
      exact ⟨a.le_toInt, a.toInt_lt⟩
  | int32 =>
    constructor
    · intro h
      exact ⟨Int32.ofInt n, congrArg some (Int32.toInt_ofInt_of_le h.1 h.2)⟩
    · rintro ⟨a, ha⟩
      cases ha
      exact ⟨a.le_toInt, a.toInt_lt⟩
  | uint64 =>
    constructor
    · rintro ⟨hlow, hhigh⟩
      have hword : (UInt64.ofNat n.toNat).toNat = n.toNat :=
        UInt64.toNat_ofNat_of_lt' (show _ < 2 ^ 64 by omega)
      refine ⟨UInt64.ofNat n.toNat, congrArg some ?_⟩
      omega
    · rintro ⟨a, ha⟩
      cases ha
      exact ⟨Int.natCast_nonneg _, mod_cast a.toNat_lt⟩
  | uint32 =>
    constructor
    · rintro ⟨hlow, hhigh⟩
      have hword : (UInt32.ofNat n.toNat).toNat = n.toNat :=
        UInt32.toNat_ofNat_of_lt' (show _ < 2 ^ 32 by omega)
      refine ⟨UInt32.ofNat n.toNat, congrArg some ?_⟩
      omega
    · rintro ⟨a, ha⟩
      cases ha
      exact ⟨Int.natCast_nonneg _, mod_cast a.toNat_lt⟩
  | string | float | bool | bytes | optional =>
    constructor
    · exact False.elim
    · rintro ⟨a, ha⟩
      cases ha

/-! ## Reading one value

A value on its own is read without knowing which property it belongs to. A refusal says what was
wanted and what was found, under property zero for the time being. -/

@[simp]
theorem orMismatch_eq_ok_iff {t : ReadType} {v : Value} {o : Option t.Carrier} {a : t.Carrier} :
    t.orMismatch v o = .ok a ↔ o = some a := by
  cases o <;> simp [orMismatch]

/-- A conversion that gives nothing is refused as a mismatch. -/
theorem orMismatch_eq_error_iff {t : ReadType} {v : Value} {o : Option t.Carrier} {err : Error} :
    t.orMismatch v o = .error err ↔ o = none ∧ err = .typeMismatch ⟨0⟩ t.expected v.typeName := by
  cases o <;> simp [orMismatch, eq_comm]

/-- A value reads as a member of an integer type exactly if it is the same number. The narrow types
go through a wide word, which neither step wraps. -/
theorem fromValue_eq_ok_iff {t : ReadType} {v : Value} {a : t.Carrier} {n : Int}
    (h : t.number? a = some n) : t.fromValue v = .ok a ↔ v.IsInteger n := by
  cases t with
  | int64 =>
    cases h
    rw [fromValue, orMismatch_eq_ok_iff, Value.asInt?_eq_some_iff]
  | uint64 =>
    cases h
    rw [fromValue, orMismatch_eq_ok_iff, Value.asUInt?_eq_some_iff]
  | int32 =>
    cases h
    -- the narrow types go through the wide word, and check its range before they cut it
    have hmin : Int32.minValue.toInt = -2 ^ 31 := by decide
    have hmax : Int32.maxValue.toInt = 2 ^ 31 - 1 := by decide
    rw [fromValue, orMismatch_eq_ok_iff, Option.bind_eq_some_iff]
    simp only [Value.asInt?_eq_some_iff, Option.ite_none_right_eq_some, Option.some.injEq]
    constructor
    · rintro ⟨w, hw, hrange, rfl⟩
      have hnarrow : w.toInt32.toInt = w.toInt := by
        rw [Int64.toInt_toInt32]
        apply Int.bmod_eq_of_le <;> omega
      rwa [hnarrow]
    · intro hv
      have hlow := a.le_toInt
      have hhigh := a.toInt_lt
      refine ⟨a.toInt64, ?_, ?_, Int32.toInt32_toInt64 a⟩
      · rwa [Int32.toInt_toInt64]
      · rw [Int32.toInt_toInt64]
        omega
  | uint32 =>
    cases h
    rw [fromValue, orMismatch_eq_ok_iff, Option.bind_eq_some_iff]
    simp only [Value.asUInt?_eq_some_iff, Option.ite_none_right_eq_some, Option.some.injEq]
    constructor
    · rintro ⟨w, hw, hrange, rfl⟩
      have hnarrow : w.toUInt32.toNat = w.toNat := by
        rw [UInt64.toNat_toUInt32]
        exact Nat.mod_eq_of_lt hrange
      rwa [hnarrow]
    · intro hv
      refine ⟨a.toUInt64, ?_, ?_, UInt32.toUInt32_toUInt64 a⟩
      · rwa [UInt32.toNat_toUInt64]
      · rw [UInt32.toNat_toUInt64]
        exact a.toNat_lt
  | string | float | bool | bytes | optional => cases h

/-- A value reads as a number of an integer type exactly if it is that number and the type has it.
-/
theorem exists_fromValue_iff (t : ReadType) (v : Value) (n : Int) :
    (∃ a, t.fromValue v = .ok a ∧ t.number? a = some n) ↔ v.IsInteger n ∧ t.InRange n := by
  rw [inRange_iff_exists]
  constructor
  · rintro ⟨a, hread, ha⟩
    exact ⟨(fromValue_eq_ok_iff ha).mp hread, a, ha⟩
  · rintro ⟨hv, a, ha⟩
    exact ⟨a, (fromValue_eq_ok_iff ha).mpr hv, ha⟩

/-- An optional type refuses what its members refuse, with the same error. -/
theorem eq_typeMismatch_of_fromValue {t : ReadType} {v : Value} {err : Error}
    (h : t.fromValue v = .error err) : err = .typeMismatch ⟨0⟩ t.expected v.typeName := by
  -- the types nest, and an optional type asks the one inside
  induction t generalizing err with
  | optional inner ih =>
    rw [fromValue] at h
    split at h
    · cases h
    · cases hinner : inner.fromValue v with
      | ok a => rw [hinner] at h; cases h
      | error e =>
        rw [hinner] at h
        cases h
        exact ih hinner
  | string | int64 | int32 | uint64 | uint32 | float | bool | bytes =>
    exact (orMismatch_eq_error_iff.mp h).2

/-- No optional type of an optional type, of which two members are stored as null. -/
def Unnested : ReadType → Prop
  | optional (optional _) => False
  | _ => True

/-- Only optional types store something as null. -/
theorem toValue_ne_null {t : ReadType} (h : ∀ inner, t ≠ .optional inner) (a : t.Carrier) :
    (t.toValue a).isNull = false := by
  cases t with
  | optional inner => exact absurd rfl (h inner)
  | string | int64 | int32 | uint64 | uint32 | float | bool | bytes => rfl

/-- What is stored reads back. -/
theorem fromValue_toValue {t : ReadType} (h : t.Unnested) (a : t.Carrier) :
    t.fromValue (t.toValue a) = .ok a := by
  induction t with
  | int64 => exact (fromValue_eq_ok_iff rfl).mpr (.int a)
  | uint64 => exact (fromValue_eq_ok_iff rfl).mpr (.uint a)
  | int32 =>
    refine (fromValue_eq_ok_iff (n := a.toInt) rfl).mpr ?_
    rw [← Int32.toInt_toInt64]
    exact .int _
  | uint32 =>
    refine (fromValue_eq_ok_iff (n := a.toNat) rfl).mpr ?_
    rw [← UInt32.toNat_toUInt64]
    exact .uint _
  | string | float | bool | bytes => rfl
  | optional inner ih =>
    have hinner : ∀ t, inner ≠ .optional t := by
      rintro t rfl
      exact h
    cases a with
    | none => rfl
    | some a =>
      -- the type inside is not optional, so what it stores is not null
      have hself : inner.Unnested := by
        cases inner with
        | optional t => exact absurd rfl (hinner t)
        | string | int64 | int32 | uint64 | uint32 | float | bool | bytes => trivial
      rw [toValue, fromValue, toValue_ne_null hinner, ih hself]
      rfl

end ReadType

/-! ## Reading a property

A property that is missing is read as null. A typed read converts what is there and puts the
property into the refusal. -/

namespace Record

variable {r : Record} {p : PropertyId} {t : ReadType}

/-- A typed read gives what the conversion of the stored value gives. -/
theorem get_eq_ok_iff {a : t.Carrier} :
    r.get t p = .ok a ↔ t.fromValue (r.value p) = .ok a := by
  cases h : t.fromValue (r.value p) <;> simp [get, ReadType.read, h, Except.mapError]

/-- A refusal blames the property that was read. -/
theorem eq_typeMismatch_of_get {err : Error} (h : r.get t p = .error err) :
    err = .typeMismatch p t.expected (r.value p).typeName := by
  cases hread : t.fromValue (r.value p) with
  | ok a => simp [get, ReadType.read, hread, Except.mapError] at h
  | error e =>
    simp only [get, ReadType.read, hread, Except.mapError, Except.error.injEq] at h
    rw [← h, ReadType.eq_typeMismatch_of_fromValue hread]
    rfl

/-- Nothing is stored under a property, or null is. -/
def Lacks (r : Record) (p : PropertyId) : Prop :=
  r.properties.get? p = none ∨ r.properties.get? p = some .null

theorem lacks_iff : r.Lacks p ↔ (r.value p).isNull = true := by
  rw [Lacks, value]
  cases h : r.properties.get? p with
  | none => simp [Value.isNull]
  | some v => cases v <;> simp [Value.isNull]

theorem get_optional_of_lacks (h : r.Lacks p) : r.get (.optional t) p = .ok none := by
  rw [get_eq_ok_iff, ReadType.fromValue, if_pos (lacks_iff.mp h)]

theorem get_optional_of_not_lacks (h : ¬ r.Lacks p) :
    r.get (.optional t) p = (r.get t p).map some := by
  rw [lacks_iff] at h
  rw [get, ReadType.read, ReadType.fromValue, if_neg h, get, ReadType.read]
  cases t.fromValue (r.value p) <;> rfl

/-- What a typed read of a property gives. Read as an integer type it gives the number that is
stored, if that number is in the range of the type, and nothing else. Read as an optional type it
gives nothing where nothing or null is stored, and agrees with the plain read elsewhere. What was
stored of a type reads back, and a refusal names the property, what was wanted of it and the shape
that was found. -/
theorem get_decides (r : Record) (p : PropertyId) (t : ReadType) :
    (∀ n, (∃ a, r.get t p = .ok a ∧ t.number? a = some n) ↔
      (r.value p).IsInteger n ∧ t.InRange n) ∧
    (r.get (.optional t) p = .ok none ↔ r.Lacks p) ∧
    (¬ r.Lacks p → r.get (.optional t) p = (r.get t p).map some) ∧
    (∀ a, t.Unnested → r.value p = t.toValue a → r.get t p = .ok a) ∧
    ∀ err, r.get t p = .error err →
      err = .typeMismatch p t.expected (r.value p).typeName := by
  refine ⟨fun n => ?_, ⟨fun h => ?_, get_optional_of_lacks⟩, get_optional_of_not_lacks,
    fun a ht h => ?_, fun err => eq_typeMismatch_of_get⟩
  · simp only [get_eq_ok_iff]
    exact ReadType.exists_fromValue_iff t (r.value p) n
  · by_contra hlacks
    rw [get_optional_of_not_lacks hlacks] at h
    -- a plain read gives something or fails
    cases hread : r.get t p <;> rw [hread] at h <;> cases h
  · rw [get_eq_ok_iff, h]
    exact ReadType.fromValue_toValue ht a

/-- A negative number, read as a signed and as an unsigned type, and a missing property. -/
theorem get_decides_negative :
    let r : Record := ⟨⟨1⟩, .ofList [(⟨4⟩, .int (-1))]⟩
    r.get .int32 ⟨4⟩ = .ok (-1) ∧
    r.get (.optional .int32) ⟨4⟩ = .ok (some (-1)) ∧
    r.get .uint32 ⟨4⟩ = .error (.typeMismatch ⟨4⟩ "UNSIGNED" "INTEGER") ∧
    r.get (.optional .uint32) ⟨5⟩ = .ok none := by
  intro r
  have hstored : r.value ⟨4⟩ = .int (-1) := rfl
  have hheld : ¬ r.Lacks ⟨4⟩ := by
    rw [lacks_iff, hstored]
    decide
  obtain ⟨-, -, hsame, hback, -⟩ := get_decides r ⟨4⟩ .int32
  obtain ⟨hnumber, -, -, -, hblame⟩ := get_decides r ⟨4⟩ .uint32
  obtain ⟨-, hnone, -⟩ := get_decides r ⟨5⟩ .uint32
  have hread : r.get .int32 ⟨4⟩ = .ok (-1) := hback (-1) trivial rfl
  refine ⟨hread, by rw [hsame hheld, hread]; rfl, ?_, hnone.mpr (.inl rfl)⟩
  -- a number that is read without a sign is not negative
  cases hunsigned : r.get .uint32 ⟨4⟩ with
  | error err => rw [hblame err hunsigned]; rfl
  | ok a =>
    obtain ⟨hvalue, hrange⟩ := (hnumber a.toNat).mp ⟨a, hunsigned, rfl⟩
    rw [hstored] at hvalue
    generalize (a.toNat : Int) = n at hvalue hrange
    cases hvalue
    exact absurd hrange.1 (by decide)

end Record

end EntityQuery
