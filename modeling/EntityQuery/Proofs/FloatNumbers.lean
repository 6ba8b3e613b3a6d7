import EntityQuery.Proofs.FloatOrder
import EntityQuery.Proofs.FloatReading

/-!
# What is read as a float is a number

The digits of a numeral are scaled by products and quotients with powers of ten, which are finite
and not zero. So what is read is a number, though it may be an infinite one on the way
(`Numeral.isNaN_toFloat?`), and numbers can all be compared (`compareFloats?_isSome_iff`).

* `isNaN_unpack_pack` says that a number is stored as a number.
-/

namespace EntityQuery

open Float.Model Float.Model.UnpackedFloat

/-! ## Comparing numbers

Only what is no number fails to compare. Whether a float is one can be read off its parts. -/

theorem le_iff_compare (x y : Float) :
    x ≤ y ↔ (x.toModel.unpack.compare y.toModel.unpack).any (·.isLE) = true := by
  show decide (x.toModel ≤ y.toModel) = true ↔ _
  rw [decide_eq_true_iff]
  exact Iff.rfl

theorem compare_isSome_iff (a b : UnpackedFloat) :
    (a.compare b).isSome = true ↔ a.isNaN = false ∧ b.isNaN = false := by
  rcases a with (_ | _) | _ | _ | ⟨_ | _, _, _, _⟩ <;>
    rcases b with (_ | _) | _ | _ | ⟨_ | _, _, _, _⟩ <;>
    simp [UnpackedFloat.compare, UnpackedFloat.isNaN]

/-- Two floats compare if both are numbers. -/
theorem compareFloats?_isSome_iff (x y : Float) :
    (compareFloats? x y).isSome = true ↔ x.isNaN = false ∧ y.isNaN = false := by
  rw [compareFloats?_eq]
  exact compare_isSome_iff ..

/-! ## Storing numbers

Rounding and packing give parts that are numbers, whatever they are given: at worst a number that is
too large is stored as an infinity, which is a number too. -/

/-- An exponent that is not the largest is that of a number. -/
theorem isNaN_unpack_packComponents (s : Sign) {exponent : BitVec 11} (fraction : BitVec 52)
    (h : exponent ≠ -1#11) :
    (unpack Format.binary64 (packComponents Format.binary64 s exponent fraction)).isNaN =
      false := by
  rw [UnpackedFloat.unpack]
  simp only [unpackExponent_packComponents, unpackMantissa_packComponents]
  rw [if_neg h]
  split
  · split <;> rfl
  · rfl

theorem isNaN_unpack_packedInfinity (s : Sign) :
    (unpack Format.binary64 (packedInfinity Format.binary64 s)).isNaN = false := by
  cases s <;> decide

/-- A number is stored as a number. -/
theorem isNaN_unpack_pack {f : UnpackedFloat} (h : f.isNaN = false) :
    (Float.Model.pack f).unpack.isNaN = false := by
  show (unpack Format.binary64 (UnpackedFloat.pack Format.binary64 f)).isNaN = false
  cases f with
  | notANumber => cases h
  | infinity s => exact isNaN_unpack_packedInfinity s
  | zero s => exact isNaN_unpack_packComponents s 0 (by decide)
  | finite s m e hpos =>
    rw [UnpackedFloat.pack]
    -- too large, or with all bits of the significand, or among the smallest
    split
    · exact isNaN_unpack_packedInfinity s
    · rename_i hexponent
      split
      · -- the exponent is below the one of the infinities
        refine isNaN_unpack_packComponents s _ fun hall => ?_
        have htoNat := congrArg BitVec.toNat hall
        rw [BitVec.toNat_ofNat] at htoNat
        simp at hexponent htoNat
        omega
      · exact isNaN_unpack_packComponents s _ (by decide)

theorem isNaN_roundWithAccuracy (s : Sign) (m : ℕ) (e : ℤ) (acc : Accuracy) :
    (roundWithAccuracy Format.binary64 s m e acc).isNaN = false := by
  rw [roundWithAccuracy]
  simp only
  split <;> rfl

theorem isNaN_mul {a : UnpackedFloat} (h : a.isNaN = false) (s : Sign) {m : ℕ} {e : ℤ}
    (hm : 0 < m) : (UnpackedFloat.mul Format.binary64 a (.finite s m e hm)).isNaN = false := by
  cases a with
  | notANumber => cases h
  | infinity | zero => rfl
  | finite => exact isNaN_roundWithAccuracy ..

theorem isNaN_div {a : UnpackedFloat} (h : a.isNaN = false) (s : Sign) {m : ℕ} {e : ℤ}
    (hm : 0 < m) : (UnpackedFloat.div Format.binary64 a (.finite s m e hm)).isNaN = false := by
  cases a with
  | notANumber => cases h
  | infinity | zero => rfl
  | finite => exact isNaN_roundWithAccuracy ..

theorem isNaN_toFloat (n : UInt64) : n.toFloat.isNaN = false := by
  refine isNaN_unpack_pack ?_
  simp only [UnpackedFloat.ofUInt64, UnpackedFloat.ofNat, UnpackedFloat.ofInt,
    UnpackedFloat.normalize]
  split
  · exact isNaN_roundWithAccuracy ..
  · rfl
  · exact isNaN_roundWithAccuracy ..

theorem isNaN_neg {x : Float} (h : x.isNaN = false) : (-x).isNaN = false := by
  have hx : x.toModel.unpack.isNaN = false := h
  refine isNaN_unpack_pack ?_
  revert hx
  cases x.toModel.unpack <;> exact id

namespace Numeral

/-! ## Scaling numbers

The powers of ten that digits are scaled by are finite and not zero, so that scaling a number gives
a number, in one step upwards or in many steps down. -/

variable {x y : Float} {n : ℕ}

/-- The powers of ten that there is a float for are finite and positive. -/
theorem exists_unpack_powerOfTen (h : n ≤ 308) :
    ∃ m e hpos, (powerOfTen n).toModel.unpack = .finite .positive m e hpos := by
  obtain ⟨q, hnormal, -⟩ := normal_powerOfTen h
  obtain ⟨m, e, hpos, hunpack, -⟩ := hnormal.exists_unpack
  exact ⟨m, e, hpos, hunpack⟩

theorem isNaN_mul_powerOfTen (hx : x.isNaN = false) (hn : n ≤ 308) :
    (x * powerOfTen n).isNaN = false := by
  obtain ⟨m, e, hpos, hunpack⟩ := exists_unpack_powerOfTen hn
  refine isNaN_unpack_pack ?_
  rw [hunpack]
  exact isNaN_mul hx ..

theorem isNaN_div_powerOfTen (hx : x.isNaN = false) (hn : n ≤ 308) :
    (x / powerOfTen n).isNaN = false := by
  obtain ⟨m, e, hpos, hunpack⟩ := exists_unpack_powerOfTen hn
  refine isNaN_unpack_pack ?_
  rw [hunpack]
  exact isNaN_div hx ..

theorem isNaN_scaleUp? (hx : x.isNaN = false) (h : scaleUp? x n = some y) : y.isNaN = false := by
  simp only [scaleUp?] at h
  split at h
  · rename_i hn
    obtain ⟨-, hproduct⟩ := Option.ite_none_left_eq_some.mp h
    cases hproduct
    exact isNaN_mul_powerOfTen hx hn
  · obtain ⟨-, hsame⟩ := Option.ite_none_right_eq_some.mp h
    cases hsame
    exact hx

theorem isNaN_scaleDown (hx : x.isNaN = false) (n : ℕ) : (scaleDown x n).isNaN = false := by
  -- as it is scaled: at once, not at all, or by the largest power and then on
  induction x, n using scaleDown.induct with
  | case1 x n hn =>
    rw [scaleDown, if_pos hn]
    exact isNaN_div_powerOfTen hx hn
  | case2 x n hn hzero =>
    rw [scaleDown, if_neg hn, if_pos hzero]
    exact hx
  | case3 x n hn hzero ih =>
    rw [scaleDown, if_neg hn, if_neg hzero]
    exact ih (isNaN_div_powerOfTen hx le_rfl)

/-- A numeral is read as a number. -/
theorem isNaN_toFloat? {n : Numeral} (h : n.toFloat? = some x) : x.isNaN = false := by
  obtain ⟨magnitude, hmagnitude, rfl⟩ := Option.map_eq_some_iff.mp h
  have hnumber : magnitude.isNaN = false := by
    split at hmagnitude
    · exact isNaN_scaleUp? (isNaN_toFloat _) hmagnitude
    · cases hmagnitude
      exact isNaN_scaleDown (isNaN_toFloat _) _
  split
  · exact isNaN_neg hnumber
  · exact hnumber

end Numeral

end EntityQuery
