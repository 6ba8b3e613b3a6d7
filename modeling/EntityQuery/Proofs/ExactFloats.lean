import EntityQuery.Proofs.FloatReading

/-!
# Floats that come back as they were

The digits of a short text are a float themselves, and so is the power of ten that scales them. The
number that the text writes is then rounded only once, which finds the float that it was written for
(`restored?_eq_self`).

* `Numeral.IsShort` says which texts are short, and `Numeral.IsShort.roundedFrom` that their numbers
  are rounded once.
* `Binary.Covers.rounds` says that what lies in the interval of a float is rounded to that float.
* `unpack_eq` takes a float apart.
-/

namespace EntityQuery

open Float.Model Float.Model.UnpackedFloat

/-! ## Scaling a short text

The digits of a short text are a whole number that is a float itself, and the power of ten is one
too. Then the only rounding is that of their product or quotient. -/

namespace Numeral

/-- A whole number of 53 bits is a float itself. -/
theorem normal_ofNat {s : ℕ} (hpos : 0 < s) (hlt : s < 2 ^ 53) :
    Normal (UInt64.ofNat s).toFloat s := by
  have htoNat : (UInt64.ofNat s).toNat = s :=
    UInt64.toNat_ofNat_of_lt' (hlt.trans (by decide))
  obtain ⟨p, hp, hexact, -⟩ := normal_toFloat (n := UInt64.ofNat s) (by omega)
  rw [htoNat] at hexact
  rwa [hexact hlt] at hp

/-- Scaling up by one of the exact powers of ten rounds once. -/
theorem roundedFrom_scaleUp? {x : Float} {p : ℚ} {n : ℕ} (hx : Normal x p) (hn : n ≤ 22)
    (h : p * 10 ^ n < overflow) : ∃ y, scaleUp? x n = some y ∧ RoundedFrom y (p * 10 ^ n) := by
  have hten := normal_powerOfTen_of_le hn
  refine ⟨x * powerOfTen n, ?_, roundedFrom_mul hx hten⟩
  rw [scaleUp?, if_pos (by omega)]
  simp [isInf_mul_eq_false hx hten h]

theorem roundedFrom_scaleDown {x : Float} {p : ℚ} {n : ℕ} (hx : Normal x p) (hn : n ≤ 22)
    (h : 2 ^ (-1000 : ℤ) ≤ p / 10 ^ n) : RoundedFrom (scaleDown x n) (p / 10 ^ n) := by
  rw [scaleDown, if_pos (by omega)]
  exact roundedFrom_div hx (normal_powerOfTen_of_le hn) h

/-- A text whose digits and whose power of ten are floats themselves. -/
structure IsShort (n : Numeral) : Prop where
  significand_lt : n.significand < 2 ^ 53
  power_le : n.power.natAbs ≤ 22

instance (n : Numeral) : Decidable n.IsShort :=
  decidable_of_iff (n.significand < 2 ^ 53 ∧ n.power.natAbs ≤ 22)
    ⟨fun h => ⟨h.1, h.2⟩, fun h => ⟨h.significand_lt, h.power_le⟩⟩

namespace IsShort

variable {n : Numeral}

/-- The number that a short text writes is not among the smallest. -/
theorem le_value (h : n.IsShort) (hpos : 0 < n.significand) : 2 ^ (-1000 : ℤ) ≤ n.value := by
  have hpower := h.power_le
  have hone : (1 : ℚ) ≤ n.significand := by exact_mod_cast hpos
  calc (2 : ℚ) ^ (-1000 : ℤ) ≤ 2 ^ (-88 : ℤ) := zpow_le_zpow_right₀ (by norm_num) (by norm_num)
    _ ≤ 10 ^ (-22 : ℤ) := by norm_num
    _ ≤ 10 ^ n.power := zpow_le_zpow_right₀ (by norm_num) (by omega)
    _ ≤ n.significand * 10 ^ n.power := le_mul_of_one_le_left (by positivity) hone

theorem value_lt (h : n.IsShort) : n.value < overflow := by
  have hpower := h.power_le
  have hlt : (n.significand : ℚ) < 2 ^ 53 := by exact_mod_cast h.significand_lt
  refine lt_overflow (k := 127) ?_ (by decide)
  calc n.significand * (10 : ℚ) ^ n.power ≤ n.significand * 10 ^ (22 : ℤ) := by
        gcongr
        · norm_num
        · omega
    _ < 2 ^ 53 * 10 ^ (22 : ℤ) := by gcongr
    _ ≤ 2 ^ 127 := by norm_num

/-- The number that a short text writes is rounded once. -/
theorem roundedFrom (h : n.IsShort) (hpos : 0 < n.significand) :
    ∃ y, RoundedFrom y n.value ∧ n.toFloat? = some (if n.negative then -y else y) := by
  have hpower := h.power_le
  have hvalue := h.value_lt
  have hvalue' := h.le_value hpos
  have hx := normal_ofNat hpos h.significand_lt
  rw [toFloat?_eq (h.significand_lt.trans (by decide)), value] at *
  -- the power of ten multiplies or divides
  rcases le_or_gt 0 n.power with hscale | hscale
  · obtain ⟨k, hk⟩ := Int.eq_ofNat_of_zero_le hscale
    have hmul : (n.significand : ℚ) * 10 ^ n.power = n.significand * 10 ^ k := by
      rw [hk, zpow_natCast]
    rw [hmul] at hvalue ⊢
    obtain ⟨y, hy, hrounded⟩ := roundedFrom_scaleUp? hx (by omega) hvalue
    exact ⟨y, hrounded, by rw [if_pos hscale, hk, Int.toNat_natCast, hy, Option.map_some]⟩
  · obtain ⟨k, hk⟩ := Int.exists_eq_neg_ofNat hscale.le
    have hdiv : (n.significand : ℚ) * 10 ^ n.power = n.significand / 10 ^ k := by
      rw [hk, zpow_neg, zpow_natCast, div_eq_mul_inv]
    rw [hdiv] at hvalue' ⊢
    refine ⟨_, roundedFrom_scaleDown hx (by omega) hvalue', ?_⟩
    rw [if_neg (Int.not_le.mpr hscale), hk, neg_neg, Int.toNat_natCast, Option.map_some]

end IsShort

end Numeral

/-! ## Rounding into an interval

The text of a float lies in the interval of the numbers that round to it. For a float with all bits
of its significand the interval is what the arithmetic of floats rounds to that float, the ends
included as far as they belong to it. -/

namespace Binary

variable {v : Binary} {q : ℚ}

/-- The magnitude of a float that is not among the smallest has 53 bits, and the float below a power
of two is nearer. -/
structure IsNormal (v : Binary) : Prop extends v.Fits where
  low : 2 ^ 52 ≤ v.significand
  closerBelow : v.significand = 2 ^ 52 → v.closerBelow = true

/-- Where the exponent is not the smallest, the significand has all its bits. -/
theorem isNormal_ofBits {bits : UInt64} (h : -1074 < (ofBits bits).exponent) :
    (ofBits bits).IsNormal := by
  have hfits := fits_ofBits bits
  by_cases hscale : bits.toNat / 2 ^ 52 % 2 ^ 11 = 0
  · rw [ofBits_subnormal hscale] at h
    exact absurd h (lt_irrefl _)
  · rw [ofBits_normal hscale] at *
    refine ⟨hfits, Nat.le_add_right .., fun hsignificand => ?_⟩
    simp only [Bool.and_eq_true, decide_eq_true_eq] at hsignificand h ⊢
    omega

/-- The float is the nearest one to what lies in its interval. -/
theorem Covers.isNearest (h : v.Covers q) (hv : 0 < v.significand) :
    IsNearest (q / 2 ^ v.exponent) v.significand := by
  have hlow : v.value - 2 ^ v.exponent / 2 ≤
      v.ofQuarters (4 * v.significand - if v.closerBelow then 1 else 2) := by
    have hunit : (0 : ℚ) < 2 ^ v.exponent := by positivity
    split <;> rw [ofQuarters_sub (by omega)] <;> push_cast <;> linarith
  have hhigh : v.ofQuarters (4 * v.significand + 2) = v.value + 2 ^ v.exponent / 2 := by
    rw [ofQuarters_add]
    push_cast
    ring
  -- within half a unit of the significand, and at that distance only of an even one
  refine .of_div (by positivity) ?_ fun heq => ?_ <;> rw [← value_eq] at *
  · have hbounds := h.bounds
    rw [hhigh] at hbounds
    exact abs_le.mpr ⟨by linarith, by linarith⟩
  · -- at an end of the interval, which belongs to it
    by_contra hodd
    rw [Covers, if_neg (mt Nat.even_iff.mpr hodd), hhigh] at h
    exact absurd heq (abs_lt.mpr ⟨by linarith, by linarith⟩).ne

/-- What lies in the interval of a float is rounded to the float. -/
theorem Covers.rounds (h : v.Covers q) (hv : v.IsNormal) : Rounds q v.significand v.exponent := by
  have hpos : 0 < v.significand := lt_of_lt_of_le (by decide) hv.low
  have hnearest := h.isNearest hpos
  rcases le_or_gt (2 ^ 52 * 2 ^ v.exponent) q with hplace | hplace
  · have hlt : (v.significand : ℚ) + 1 ≤ 2 ^ 53 := by exact_mod_cast hv.significand_lt
    have hx : q / 2 ^ v.exponent < 2 ^ 53 := by linarith [(abs_le.mp hnearest.le).2]
    rw [div_lt_iff₀ (by positivity)] at hx
    exact ⟨hv.low, hv.significand_lt, v.exponent, v.significand, hplace, hx, hnearest, le_rfl, rfl⟩
  · -- a number just below a power of two has its first bit one place further back
    have hx : q / 2 ^ v.exponent < 2 ^ 52 := (div_lt_iff₀ (by positivity)).mpr hplace
    have hle : v.significand ≤ 2 ^ 52 := hnearest.le_of_le_natCast (by exact_mod_cast hx.le)
    have hsignificand : v.significand = 2 ^ 52 := le_antisymm hle hv.low
    have hlow := h.bounds.1
    rw [hv.closerBelow hsignificand, if_pos rfl, ofQuarters_sub (by omega), value_eq,
      hsignificand] at hlow
    rw [hsignificand]
    refine rounds_two_pow ?_ hplace
    push_cast at hlow
    linarith

/-- The floats that cover numbers of some size are not among the smallest. -/
theorem Covers.lt_exponent (h : v.Covers q) (hv : v.Fits) (hq : 2 ^ (-1000 : ℤ) ≤ q) :
    -1074 < v.exponent := by
  have hlt : (v.significand : ℚ) + 1 ≤ 2 ^ 53 := by exact_mod_cast hv.significand_lt
  have hpow : (2 : ℚ) ^ (-1000 : ℤ) < 2 ^ (53 + v.exponent) := by
    calc (2 : ℚ) ^ (-1000 : ℤ) ≤ v.ofQuarters (4 * v.significand + 2) := hq.trans h.bounds.2
      _ < 2 ^ 53 * 2 ^ v.exponent := by
        rw [ofQuarters]
        gcongr
        push_cast
        linarith
      _ = 2 ^ (53 + v.exponent) := by
        rw [zpow_add₀ (by norm_num)]
        rfl
  have := (zpow_lt_zpow_iff_right₀ (by norm_num)).mp hpow
  omega

end Binary

/-! ## Floats and their parts

A float is its parts, so that two floats with the same parts are one. The parts are cut out of the
bits. -/

/-- Floats with the same parts are the same. -/
theorem eq_of_unpack_eq {x y : Float} (h : x.toModel.unpack = y.toModel.unpack) : x = y :=
  Float.toBits_inj.mp <| UInt64.toBitVec_inj.mp <|
    (unpack_inj_of_valid x.toModel.valid y.toModel.valid).mp h

theorem toNat_unpackMantissa (bits : UInt64) :
    (@unpackMantissa .binary64 bits.toBitVec).toNat = bits.toNat % 2 ^ 52 := by
  rw [unpackMantissa, BitVec.toNat_cast, BitVec.extractLsb_toNat, Nat.shiftRight_zero]
  rfl

theorem toNat_unpackSign (bits : UInt64) :
    (@unpackSign .binary64 bits.toBitVec).toNat = bits.toNat / 2 ^ 63 := by
  rw [unpackSign, BitVec.toNat_cast, BitVec.extractLsb_toNat, Nat.shiftRight_eq_div_pow]
  have hlt := bits.toNat_lt
  show bits.toNat / 2 ^ 63 % 2 = _
  omega

/-- The sign of a float. -/
def signOf (x : Float) : Sign :=
  if 0x8000000000000000 ≤ x.toBits.toNat then .negative else .positive

/-- The sign that is cut out of the bits is the sign of the float. -/
theorem ofBitVec_unpackSign (x : Float) :
    Sign.ofBitVec (@unpackSign .binary64 x.toBits.toBitVec) = signOf x := by
  have hsign := toNat_unpackSign x.toBits
  have hlt := x.toBits.toNat_lt
  rw [Sign.ofBitVec, signOf]
  by_cases h : 0x8000000000000000 ≤ x.toBits.toNat
  · rw [if_pos h, if_neg]
    intro hzero
    rw [hzero, BitVec.toNat_ofNat] at hsign
    omega
  · rw [if_neg h, if_pos]
    apply BitVec.eq_of_toNat_eq
    rw [hsign, BitVec.toNat_ofNat]
    omega

/-- The parts of a float with all bits of its significand. -/
theorem unpack_eq {x : Float} (hfinite : x.toBits.toNat / 2 ^ 52 % 2 ^ 11 ≠ 2047)
    (hlow : 2 ^ 52 ≤ (Binary.ofBits x.toBits).significand) :
    ∃ hpos, x.toModel.unpack = .finite (signOf x) (Binary.ofBits x.toBits).significand
      (Binary.ofBits x.toBits).exponent hpos := by
  have hexponent := toNat_unpackExponent x.toBits
  have hmantissa := toNat_unpackMantissa x.toBits
  have hfraction : x.toBits.toNat % 2 ^ 52 < 2 ^ 52 := Nat.mod_lt _ (by decide)
  -- with all bits of its significand, a float is neither among the smallest nor an infinity
  have hscale : x.toBits.toNat / 2 ^ 52 % 2 ^ 11 ≠ 0 := fun hzero => by
    rw [Binary.ofBits_subnormal hzero] at hlow
    exact absurd hlow (Nat.not_le.mpr hfraction)
  have hinfinity : @unpackExponent .binary64 x.toBits.toBitVec ≠ -1#11 := fun hall => by
    rw [hall] at hexponent
    exact hfinite hexponent.symm
  have hzero : @unpackExponent .binary64 x.toBits.toBitVec ≠ 0#11 := fun hall => by
    rw [hall] at hexponent
    exact hscale hexponent.symm
  refine ⟨by omega, ?_⟩
  simp only [Binary.ofBits_normal hscale]
  show UnpackedFloat.unpack Format.binary64 x.toBits.toBitVec = _
  rw [UnpackedFloat.unpack]
  simp only [if_neg hinfinity, if_neg hzero, ofBitVec_unpackSign]
  congr 1
  · -- the bit before the point is not stored
    rw [BitVec.toNat_append, hmantissa, ← Nat.shiftLeft_add_eq_or_of_lt hfraction]
    rfl
  · rw [hexponent]
    rfl

/-! ## Reading a short text

What is read is the float that the number of the text rounds to. That float is the one that the text
was written for, since rounding has one result. -/

/-- Both zeros come back with their sign. -/
theorem restored?_zero {x : Float} (h : (Binary.ofBits x.toBits).significand = 0) :
    restored? x = some x := by
  have hscale : x.toBits.toNat / 2 ^ 52 % 2 ^ 11 = 0 := by
    by_contra hscale
    rw [Binary.ofBits_normal hscale] at h
    simp at h
  rw [Binary.ofBits_subnormal hscale] at h
  have hfraction : x.toBits.toNat % 2 ^ 52 = 0 := h
  have hlt := x.toBits.toNat_lt
  have hcases : x.toBits = 0 ∨ x.toBits = 0x8000000000000000 := by
    simp only [← UInt64.toNat_inj, UInt64.toNat_ofNat]
    omega
  rw [← Float.ofBits_toBits x]
  rcases hcases with hbits | hbits <;> rw [hbits] <;> decide +kernel

/-- A short numeral is read as the float that its number rounds to. -/
theorem Numeral.IsShort.toFloat?_eq_some {n : Numeral} {x : Float} (h : n.IsShort)
    (hx : x.isFinite = true) (hpos : 0 < (Binary.ofBits x.toBits).significand)
    (hcovers : (Binary.ofBits x.toBits).Covers n.value)
    (hnegative : n.negative = decide (0x8000000000000000 ≤ x.toBits.toNat)) :
    n.toFloat? = some x := by
  have hsignificand : 0 < n.significand := by
    have hvalue := hcovers.pos hpos
    rw [Numeral.value] at hvalue
    exact_mod_cast pos_of_mul_pos_left hvalue (by positivity)
  have hlow := h.le_value hsignificand
  have hnormal := Binary.isNormal_ofBits (hcovers.lt_exponent (Binary.fits_ofBits _) hlow)
  -- what is read is rounded from the number of the text, and so is the float
  obtain ⟨y, hy, hread⟩ := h.roundedFrom hsignificand
  have hsmall : (2 : ℚ) ^ (-1022 : ℤ) ≤ 2 ^ (-1000 : ℤ) :=
    zpow_le_zpow_right₀ (by norm_num) (by norm_num)
  obtain ⟨m, e, hm, hunpack, hrounds⟩ := hy.unpack (hsmall.trans hlow) h.value_lt
  obtain ⟨rfl, rfl⟩ := hrounds.unique (hcovers.rounds hnormal)
  -- both have the parts that the number is rounded to, and the same sign
  obtain ⟨_, hself⟩ := unpack_eq (scale_of_isFinite hx) hnormal.low
  rw [hread, hnegative]
  refine congrArg some (eq_of_unpack_eq ?_)
  rw [hself, signOf]
  by_cases hsign : 0x8000000000000000 ≤ x.toBits.toNat
  · rw [if_pos hsign, if_pos (decide_eq_true hsign)]
    show (Float.Model.pack y.toModel.unpack.neg).unpack = _
    rw [hunpack]
    exact unpack_pack_normal .negative hm hrounds.low hrounds.high
      (by have := hrounds.le_exponent (hsmall.trans hlow); omega) (hrounds.exponent_le h.value_lt)
  · rw [if_neg hsign, if_neg (by simpa using hsign), hunpack]

/-- A float with a short text comes back as it was. -/
theorem restored?_eq_self {x : Float} (hx : x.isFinite = true)
    (hshort : (Layout.json.numeralOfFloat x).IsShort) : restored? x = some x := by
  by_cases hzero : (Binary.ofBits x.toBits).significand = 0
  · exact restored?_zero hzero
  have hpos := Nat.pos_of_ne_zero hzero
  have hnumeral : Layout.json.numeralOfFloat x =
      Layout.json.numeral (0x8000000000000000 ≤ x.toBits.toNat)
        ((Binary.ofBits x.toBits).shortest Layout.json.tie) := if_neg hzero
  rw [hnumeral] at hshort
  rw [restored?, hnumeral]
  refine hshort.toFloat?_eq_some hx hpos ?_ (Layout.negative_numeral ..)
  rw [Layout.value_numeral]
  exact (Binary.shortest_approximates (Binary.fits_ofBits _) hpos _).covers

end EntityQuery
