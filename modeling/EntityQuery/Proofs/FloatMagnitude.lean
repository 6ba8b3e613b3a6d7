import EntityQuery.Proofs.ExactFloats
import EntityQuery.Proofs.FloatNumbers

/-!
# Magnitudes of floats

The bits of a finite float write its magnitude as a number, and floats without their signs are
ordered as these numbers are (`abs_le_abs_iff`). The pieces, in order:

* `Binary.Canonical` says that a significand has all its bits unless the exponent is the smallest,
  so that the exponent decides first (`Binary.Canonical.value_lt`).
* `unpack_of_isFinite` finds the parts of a finite float in its bits.
* `unpack_abs` says that a float without its sign has the same other parts.
-/

namespace EntityQuery

open Float.Model Float.Model.UnpackedFloat

/-! ## Canonical parts

The magnitude of a float is written with all bits of its significand where its exponent allows it.
Written so, a magnitude has one significand and one exponent, and two of them can be compared by the
exponents first. -/

namespace Binary

variable {v w : Binary}

/-- The significand has 53 bits unless the exponent is the smallest. -/
structure Canonical (v : Binary) : Prop where
  exponent_ge : -1074 ≤ v.exponent
  high : v.significand < 2 ^ 53
  low : -1074 < v.exponent → 2 ^ 52 ≤ v.significand

/-- The magnitude that bits write is written with all bits of its significand. -/
theorem canonical_ofBits (bits : UInt64) : (ofBits bits).Canonical where
  exponent_ge := by
    -- without a bit before the point the exponent is the smallest
    by_cases hscale : bits.toNat / 2 ^ 52 % 2 ^ 11 = 0
    · rw [ofBits_subnormal hscale]
    · rw [ofBits_normal hscale]
      show (-1074 : ℤ) ≤ (bits.toNat / 2 ^ 52 % 2 ^ 11 : ℕ) - 1075
      omega
  high := (fits_ofBits bits).significand_lt
  low h := (isNormal_ofBits h).low

/-- Of two magnitudes the one with the smaller exponent is smaller. -/
theorem Canonical.value_lt (hv : v.Canonical) (hw : w.Canonical) (h : v.exponent < w.exponent) :
    v.value < w.value := by
  have hhigh : (v.significand : ℚ) < 2 ^ 53 := by exact_mod_cast hv.high
  have hlow : (2 : ℚ) ^ 52 ≤ w.significand := by
    exact_mod_cast hw.low (lt_of_le_of_lt hv.exponent_ge h)
  -- the exponents differ by one at least, which makes up for the larger significand
  have hplace : (2 : ℚ) ^ (v.exponent + 1) ≤ 2 ^ w.exponent :=
    zpow_le_zpow_right₀ (by norm_num) (by omega)
  rw [value_eq, value_eq]
  calc v.significand * (2 : ℚ) ^ v.exponent < 2 ^ 53 * 2 ^ v.exponent := by gcongr
    _ = 2 ^ 52 * 2 ^ (v.exponent + 1) := by
      rw [zpow_add_one₀ (by norm_num)]
      ring
    _ ≤ w.significand * 2 ^ w.exponent := by gcongr

/-- Magnitudes are ordered by their exponents, and where these agree by their significands. -/
theorem Canonical.value_le_iff (hv : v.Canonical) (hw : w.Canonical) :
    v.value ≤ w.value ↔
      ((compare v.exponent w.exponent).then (compare v.significand w.significand)).isLE = true := by
  rcases lt_trichotomy v.exponent w.exponent with h | h | h
  · rw [Int.compare_eq_lt.mpr h]
    exact iff_of_true (hv.value_lt hw h).le rfl
  · have hplace : (0 : ℚ) < 2 ^ w.exponent := by positivity
    rw [Int.compare_eq_eq.mpr h, value_eq, value_eq, h, mul_le_mul_iff_left₀ hplace, Nat.cast_le]
    exact Nat.isLE_compare.symm
  · rw [Int.compare_eq_gt.mpr h]
    exact iff_of_false (hw.value_lt hv h).not_ge Bool.false_ne_true

end Binary

/-! ## Parts without their sign

A finite float is taken apart into a sign, a significand and an exponent, or is one of the two
zeros. The parts are those that its bits write, and taking its sign away changes no other part. -/

/-- The magnitude of a finite float. -/
def magnitude (x : Float) : ℚ :=
  (Binary.ofBits x.toBits).value

/-- The parts of a finite float are those that its bits write. -/
theorem unpack_of_isFinite {x : Float} (h : x.isFinite = true) :
    x.toModel.unpack =
      if hpos : 0 < (Binary.ofBits x.toBits).significand then
        .finite (signOf x) (Binary.ofBits x.toBits).significand (Binary.ofBits x.toBits).exponent
          hpos
      else .zero (signOf x) := by
  -- whether there is a bit before the point, which is not stored
  by_cases hscale : x.toBits.toNat / 2 ^ 52 % 2 ^ 11 = 0
  · have hexponent : @unpackExponent .binary64 x.toBits.toBitVec = 0#11 :=
      BitVec.eq_of_toNat_eq ((toNat_unpackExponent x.toBits).trans hscale)
    have hmantissa := toNat_unpackMantissa x.toBits
    simp only [Binary.ofBits_subnormal hscale]
    show UnpackedFloat.unpack Format.binary64 x.toBits.toBitVec = _
    rw [UnpackedFloat.unpack]
    simp only [hexponent, ofBitVec_unpackSign, ← hmantissa]
    rw [if_neg (by decide), if_pos trivial]
    by_cases hzero : @unpackMantissa .binary64 x.toBits.toBitVec = 0#52
    · rw [dif_pos hzero, dif_neg (by rw [hzero]; decide)]
    · have hpos : 0 < (@unpackMantissa .binary64 x.toBits.toBitVec).toNat :=
        Nat.pos_of_ne_zero fun hnat => hzero (BitVec.eq_of_toNat_eq hnat)
      rw [dif_neg hzero, dif_pos hpos]
      rfl
  · have hlow : 2 ^ 52 ≤ (Binary.ofBits x.toBits).significand := by
      rw [Binary.ofBits_normal hscale]
      exact Nat.le_add_right ..
    obtain ⟨hpos, hunpack⟩ := unpack_eq (scale_of_isFinite h) hlow
    rw [hunpack, dif_pos hpos]

/-- Taken apart, a float without its sign is that float's parts without theirs. -/
theorem unpack_abs {x : Float} (h : x.isFinite = true) :
    x.abs.toModel.unpack = x.toModel.unpack.abs := by
  -- the same bits with a positive sign
  let bits := packComponents Format.binary64 .positive (unpackExponent x.toBits.toBitVec)
    (unpackMantissa x.toBits.toBitVec)
  have hexponent : @unpackExponent .binary64 x.toBits.toBitVec ≠ -1#11 := fun hall => by
    have htoNat := toNat_unpackExponent x.toBits
    rw [hall] at htoNat
    exact scale_of_isFinite h htoNat.symm
  -- the bits without the sign are those of no infinity and of nothing that is no number
  have hvalid : Format.binary64.Valid bits :=
    ⟨fun hall => absurd hall (by rwa [unpackExponent_packComponents])⟩
  have hbits : UnpackedFloat.unpack Format.binary64 bits = x.toModel.unpack.abs := by
    show _ = (UnpackedFloat.unpack Format.binary64 x.toBits.toBitVec).abs
    rw [UnpackedFloat.unpack, UnpackedFloat.unpack]
    simp only [bits, unpackExponent_packComponents, unpackMantissa_packComponents,
      unpackSign_packComponents, Sign.ofBitVec_toBitVec, if_neg hexponent]
    split
    · split <;> rfl
    · rfl
  show UnpackedFloat.unpack Format.binary64
    (UnpackedFloat.pack Format.binary64 x.toModel.unpack.abs) = _
  rw [← hbits, pack_unpack_of_valid hvalid]

/-! ## The order of magnitudes

Floats without signs are compared exponent first, as magnitudes are. The zeros are compared apart,
since they have no parts. -/

/-- Without their signs, finite floats are ordered as their magnitudes are. -/
theorem abs_le_abs_iff {x y : Float} (hx : x.isFinite = true) (hy : y.isFinite = true) :
    x.abs ≤ y.abs ↔ magnitude x ≤ magnitude y := by
  rw [le_iff_compare, unpack_abs hx, unpack_abs hy, unpack_of_isFinite hx, unpack_of_isFinite hy,
    magnitude, magnitude]
  have hcx := Binary.canonical_ofBits x.toBits
  have hcy := Binary.canonical_ofBits y.toBits
  generalize Binary.ofBits x.toBits = v at *
  generalize Binary.ofBits y.toBits = w at *
  by_cases hv : 0 < v.significand
  · rw [dif_pos hv]
    by_cases hw : 0 < w.significand
    · rw [dif_pos hw, hcx.value_le_iff hcy]
      rfl
    · -- nothing but zero is as small as zero
      have hzero : w.value = 0 := by
        rw [Binary.value_eq, Nat.eq_zero_of_not_pos hw, Nat.cast_zero, zero_mul]
      have hpos : 0 < v.value := by
        rw [Binary.value_eq]
        positivity
      rw [dif_neg hw, hzero]
      exact iff_of_false Bool.false_ne_true hpos.not_ge
  · have hzero : v.value = 0 := by
      rw [Binary.value_eq, Nat.eq_zero_of_not_pos hv, Nat.cast_zero, zero_mul]
    have hnonneg : 0 ≤ w.value := by
      rw [Binary.value_eq]
      positivity
    rw [dif_neg hv, hzero]
    refine iff_of_true ?_ hnonneg
    split <;> rfl

end EntityQuery
