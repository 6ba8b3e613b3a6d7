import EntityQuery.Proofs.FloatRounding
import EntityQuery.Proofs.FloatText

/-!
# Written floats are read as floats

The text of a finite float is always read as some float (`restored?_isSome`): the product that
scales the digits up does not overflow, although it is rounded twice.

* `Numeral.gather_eq` says that up to nineteen digits are gathered into one word.
* `Numeral.normal_powerOfTen` bounds the rounded powers of ten, and `Numeral.mul_roundedPower_lt`
  the products with them. Up to the last power this takes the bound to its last bit.
* `Numeral.scaleUp?_isSome` says which products do not overflow.
* `Binary.high_le` is that bound for all floats but the largest, whose text is read by itself.
-/

namespace EntityQuery

open Float.Model Float.Model.UnpackedFloat

namespace Numeral

/-! ## Gathering digits

Digits are gathered into a word as long as they fit it. Up to nineteen always do, and the rest is
counted as zeros or ignored. -/

theorem digit_lt {c : Char} (h : c.isDigit = true) : c.toNat - '0'.toNat < 10 := by
  have hbounds := toNat_of_isDigit h
  have hzero : '0'.toNat = 48 := rfl
  omega

/-- So many digits are a number below that power of ten. -/
theorem ofDigitChars_lt {cs : List Char} (h : ∀ c ∈ cs, c.isDigit = true) (n : ℕ) :
    Nat.ofDigitChars 10 cs n < (n + 1) * 10 ^ cs.length := by
  induction cs generalizing n with
  | nil => simp [Nat.ofDigitChars]
  | cons c cs ih =>
    obtain ⟨hc, hcs⟩ := List.forall_mem_cons.mp h
    have hdigit := digit_lt hc
    have hle : 10 * n + (c.toNat - '0'.toNat) + 1 ≤ (n + 1) * 10 := by omega
    rw [Nat.ofDigitChars_cons, List.length_cons, Nat.pow_succ']
    calc Nat.ofDigitChars 10 cs (10 * n + (c.toNat - '0'.toNat))
        < (10 * n + (c.toNat - '0'.toNat) + 1) * 10 ^ cs.length := ih hcs _
      _ ≤ (n + 1) * 10 * 10 ^ cs.length := Nat.mul_le_mul_right _ hle
      _ = (n + 1) * (10 * 10 ^ cs.length) := Nat.mul_assoc ..

theorem le_ofDigitChars (cs : List Char) (n : ℕ) : n ≤ Nat.ofDigitChars 10 cs n := by
  rw [Nat.ofDigitChars_eq_ofDigitChars_zero]
  exact (Nat.le_mul_of_pos_left _ (by positivity)).trans (Nat.le_add_right ..)

/-- Digits that fit a word are all gathered. -/
theorem gather_eq {cs : List Char} {n : ℕ} (h : Nat.ofDigitChars 10 cs n < UInt64.size) :
    gather n cs = (Nat.ofDigitChars 10 cs n, []) := by
  induction cs generalizing n with
  | nil => rfl
  | cons c cs ih =>
    rw [Nat.ofDigitChars_cons, Nat.mul_comm 10] at h
    -- the digits so far are no more than all of them, which fit
    have hlt := (le_ofDigitChars _ _).trans_lt h
    rw [gather, if_pos hlt, ih h, Nat.ofDigitChars_cons, Nat.mul_comm 10]

theorem length_gather_le (n : ℕ) (cs : List Char) : (gather n cs).2.length ≤ cs.length := by
  induction cs generalizing n with
  | nil => exact Nat.le_refl 0
  | cons c cs ih =>
    rw [gather]
    split
    · exact (ih _).trans (Nat.le_succ _)
    · exact Nat.le_refl _

/-- While there is room for a digit more, the next digit is gathered. -/
theorem length_gather_lt {n : ℕ} (hn : (n + 1) * 10 ≤ UInt64.size) {cs : List Char}
    (h : ∀ c ∈ cs, c.isDigit = true) (hne : cs ≠ []) : (gather n cs).2.length < cs.length := by
  cases cs with
  | nil => exact absurd rfl hne
  | cons c cs =>
    have hdigit := digit_lt (h c List.mem_cons_self)
    have hlt : n * 10 + (c.toNat - '0'.toNat) < UInt64.size := by omega
    rw [gather, if_pos hlt]
    exact Nat.lt_succ_of_le (length_gather_le _ cs)

/-! ## Scaling up

The word is rounded to a float, the power of ten is another rounded float, and their product is
rounded again. Up to seventeen digits can still be scaled if the number that they write is half a
unit below the largest float, which is checked power by power. -/

/-- `overflow` as a natural number. -/
def overflowBound : ℕ :=
  2 ^ 1024 - 2 ^ 970

theorem overflow_eq : overflow = overflowBound := by
  rw [overflow, overflowBound, Nat.cast_sub (Nat.pow_le_pow_right (by decide) (by decide))]
  simp only [Nat.cast_pow, Nat.cast_ofNat]
  rfl

theorem natCast_lt_overflow {n : ℕ} (h : n < overflowBound) : (n : ℚ) < overflow := by
  rw [overflow_eq]
  exact Nat.cast_lt.mpr h

/-- What scaled significands stay below: half a place below the largest float. -/
def scaledBound : ℕ :=
  2 ^ 1024 - 3 * 2 ^ 970

theorem scaledBound_eq : (scaledBound : ℚ) = (2 ^ 54 - 3) * 2 ^ (970 : ℤ) := by
  have hnat : scaledBound = (2 ^ 54 - 3) * 2 ^ 970 := by decide +kernel
  rw [hnat, Nat.cast_mul, Nat.cast_pow]
  norm_num

theorem scaledBound_lt {n : ℕ} (h : 309 ≤ n) : scaledBound < 10 ^ n :=
  have hpow := Nat.pow_le_pow_right (show 0 < 10 by decide) h
  Nat.lt_of_lt_of_le (by decide +kernel) hpow

/-- These powers of ten are floats themselves. -/
theorem normal_powerOfTen_of_le {n : ℕ} (h : n ≤ 22) : Normal (powerOfTen n) (10 ^ n) := by
  have hall : ∀ n < 23, units? (powerOfTen n) = some (10 ^ n * 2 ^ 52) := by decide +kernel
  have hunits := normal_of_units? (hall n (by omega))
  simp only [Nat.cast_mul, Nat.cast_pow, Nat.cast_ofNat] at hunits
  rwa [mul_div_cancel_right₀ _ (by norm_num)] at hunits

/-- The larger powers of ten are rounded to the nearest float. -/
theorem roundedFrom_powerOfTen {n : ℕ} (hlarge : 22 < n) (h : n ≤ 308) :
    RoundedFrom (powerOfTen n) (10 ^ n) := by
  -- the power is computed with 53 bits more than it has
  have hlow : 2 ^ 52 ≤ 1 <<< 53 * 10 ^ n := by
    rw [Nat.shiftLeft_eq, Nat.one_mul]
    exact Nat.le_trans (by decide) (Nat.le_mul_of_pos_right (2 ^ 53) (by positivity))
  have hlog : 52 ≤ (1 <<< 53 * 10 ^ n).log2 := (Nat.le_log2 (by omega)).mpr hlow
  obtain ⟨m, e, hm, hround, hrounds⟩ :=
    roundWithAccuracy_rounds .positive (e := -(53 : ℕ) + 0)
      (show Locates (1 <<< 53 * 10 ^ n) (1 <<< 53 * 10 ^ n : ℕ) .exact from rfl) hlow (by omega)
  refine ⟨m, e, hm, ?_, ?_⟩
  · -- neither the exact powers nor those that are too large or too small
    have hof : UnpackedFloat.ofScientific Format.binary64 1 n =
        roundWithAccuracy Format.binary64 .positive (1 <<< 53 * 10 ^ n) (-(53 : ℕ) + 0) .exact := by
      rw [UnpackedFloat.ofScientific, dif_neg (by decide), if_neg (by norm_num; omega),
        if_neg (by norm_num; omega), if_pos (by omega)]
      rfl
    rw [powerOfTen, Float.ofScientific, dif_neg (by omega)]
    show Float.Model.pack (UnpackedFloat.ofScientific Format.binary64 1 n) = _
    rw [hof, hround]
  · convert hrounds using 1
    rw [Nat.shiftLeft_eq, add_zero, zpow_neg, zpow_natCast]
    push_cast
    field_simp
    norm_num

/-- A power of ten, rounded to 53 bits. -/
def roundedPower (n : ℕ) : ℕ :=
  if n ≤ 22 then 10 ^ n
  else
    let place := (10 ^ n).log2 - 52
    (2 * 10 ^ n + 2 ^ place) / 2 ^ (place + 1) * 2 ^ place

/-- The power of ten that digits are scaled by is a float, and no larger than the rounded power. -/
theorem normal_powerOfTen {n : ℕ} (h : n ≤ 308) :
    ∃ q, Normal (powerOfTen n) q ∧ q ≤ roundedPower n := by
  rw [roundedPower]
  split
  · rename_i hexact
    exact ⟨_, normal_powerOfTen_of_le hexact, by push_cast; exact le_rfl⟩
  · rename_i hlarge
    have hone : (1 : ℚ) ≤ 10 ^ n := one_le_pow₀ (by norm_num)
    have hhigh : ((10 ^ n : ℕ) : ℚ) < overflow := by
      have hpow := Nat.pow_le_pow_right (show 0 < 10 by decide) h
      exact natCast_lt_overflow (Nat.lt_of_le_of_lt hpow (by decide +kernel))
    rw [Nat.cast_pow] at hhigh
    obtain ⟨m, e, hnormal, hrounds⟩ :=
      (roundedFrom_powerOfTen (by omega) h).normal hone hhigh
    refine ⟨_, hnormal, ?_⟩
    -- past the exact powers there are more than 53 bits
    have hlow : 2 ^ 52 ≤ 10 ^ n :=
      Nat.le_trans (by decide) (Nat.pow_le_pow_right (by decide) (show 23 ≤ n by omega))
    have hlog : 52 ≤ (10 ^ n).log2 := (Nat.le_log2 (by omega)).mpr hlow
    obtain ⟨k, hk⟩ := Nat.exists_eq_add_of_le hlog
    obtain ⟨hself, hlt⟩ := (Nat.log2_eq_iff (by positivity)).mp hk
    rw [← Nat.cast_ofNat, ← Nat.cast_pow] at hrounds
    simp only [hk, Nat.add_sub_cancel_left]
    exact hrounds.le_of_place hself (by rwa [Nat.add_right_comm] at hlt)

/-- Whether a power of ten times every significand in question stays below overflow. The
significands have at most seventeen digits, and the float nearest to one exceeds it by at most one
unit for every `2 ^ 53`. -/
def staysBelow (n : ℕ) : Bool :=
  let largest := min (10 ^ 17) (scaledBound / 10 ^ n)
  (largest + largest / 2 ^ 53) * roundedPower n < overflowBound

theorem staysBelow_of_le {n : ℕ} (h : n ≤ 308) : staysBelow n = true := by
  have hall : (List.range 309).all staysBelow = true := by decide +kernel
  exact List.all_eq_true.mp hall n (List.mem_range.mpr (by omega))

/-- The products that do not overflow. -/
theorem mul_roundedPower_lt {s n : ℕ} (h : n ≤ 308) (hs : s ≤ 10 ^ 17)
    (hscaled : s * 10 ^ n ≤ scaledBound) :
    ((s + (s / 2 ^ 53 : ℕ)) * roundedPower n : ℚ) < overflow := by
  have hstays := staysBelow_of_le h
  simp only [staysBelow, decide_eq_true_eq] at hstays
  -- the significand is one of those in question
  have hle : s ≤ min (10 ^ 17) (scaledBound / 10 ^ n) :=
    Nat.le_min.mpr ⟨hs, (Nat.le_div_iff_mul_le (by positivity)).mpr hscaled⟩
  generalize min (10 ^ 17) (scaledBound / 10 ^ n) = largest at *
  have hword : s + s / 2 ^ 53 ≤ largest + largest / 2 ^ 53 :=
    Nat.add_le_add hle (Nat.div_le_div_right hle)
  have hlt := Nat.lt_of_le_of_lt (Nat.mul_le_mul_right (roundedPower n) hword) hstays
  have hcast := natCast_lt_overflow hlt
  rwa [Nat.cast_mul, Nat.cast_add] at hcast

/-- Up to seventeen digits are scaled without overflow if the number that they write is below the
bound. -/
theorem scaleUp?_isSome {s n : ℕ} (hpos : 0 < s) (hs : s < 10 ^ 17)
    (hbound : s * 10 ^ n ≤ scaledBound) :
    (scaleUp? (UInt64.ofNat s).toFloat n).isSome = true := by
  have hn : n ≤ 308 := by
    by_contra hn
    have hmul : 10 ^ n ≤ s * 10 ^ n := Nat.le_mul_of_pos_left _ hpos
    exact absurd (scaledBound_lt (n := n) (by omega)) (Nat.not_lt.mpr (hmul.trans hbound))
  have htoNat : (UInt64.ofNat s).toNat = s :=
    UInt64.toNat_ofNat_of_lt' (hs.trans (by decide))
  -- both factors are rounded upwards by no more than the bound allows for
  obtain ⟨p, hp, -, hpword⟩ := normal_toFloat (n := UInt64.ofNat s) (by omega)
  obtain ⟨q, hq, hqpower⟩ := normal_powerOfTen hn
  rw [htoNat] at hpword
  have hppos : 0 ≤ p := zero_le_one.trans hp.one_le
  have hqpos : 0 ≤ q := zero_le_one.trans hq.one_le
  have hproduct : p * q < overflow :=
    (mul_le_mul hpword hqpower hqpos (hppos.trans hpword)).trans_lt
      (mul_roundedPower_lt hn hs.le hbound)
  rw [scaleUp?, if_pos hn]
  simp [isInf_mul_eq_false hp hq hproduct]

/-! ## Reading a numeral

A numeral is read in two steps, gathering and scaling. If all digits fit the word, what is read is
their number times the power of ten of the last one. -/

/-- A numeral is read as a float if the digits that were gathered can be scaled. Scaling down always
works. -/
theorem toFloat?_isSome {n : Numeral} {s s' : ℕ} {beyond ignored : List Char}
    (hwhole : gather 0 n.whole = (s, beyond)) (hfraction : gather s n.fraction = (s', ignored))
    {power : ℤ} (hpower : n.exponent.elim 0 Exponent.value + beyond.length -
      (n.fraction.length - ignored.length) = power)
    (hscale : 0 ≤ power → (scaleUp? (UInt64.ofNat s').toFloat power.toNat).isSome = true) :
    n.toFloat?.isSome = true := by
  simp only [toFloat?, hwhole, hfraction, hpower, Option.isSome_map]
  split
  · exact hscale ‹_›
  · rfl

/-- With digits after the point and no power of ten, the digits are scaled down. -/
theorem toFloat?_isSome_of_fraction {n : Numeral} (hn : n.Writable) (hlength : n.whole.length ≤ 16)
    (hfraction : n.fraction ≠ []) (hexponent : n.exponent = none) : n.toFloat?.isSome = true := by
  have hpow : 10 ^ n.whole.length ≤ 10 ^ 16 := Nat.pow_le_pow_right (by decide) hlength
  have hword : 10 ^ 17 ≤ UInt64.size := by decide
  have hlt := ofDigitChars_lt hn.whole 0
  have hgather := gather_eq (show Nat.ofDigitChars 10 n.whole 0 < UInt64.size by omega)
  -- at least one digit behind the point is gathered, so the power of ten is negative
  have hignored := length_gather_lt (n := Nat.ofDigitChars 10 n.whole 0) (by omega) hn.fraction
    hfraction
  refine toFloat?_isSome hgather rfl rfl fun hpower => ?_
  rw [hexponent, Option.elim_none, List.length_nil] at hpower
  omega

/-- Digits that fit a word are scaled by the power of ten of the last one. -/
theorem toFloat?_eq {n : Numeral} (h : n.significand < UInt64.size) :
    n.toFloat? =
      (if 0 ≤ n.power then scaleUp? (UInt64.ofNat n.significand).toFloat n.power.toNat
        else some (scaleDown (UInt64.ofNat n.significand).toFloat (-n.power).toNat)).map
          fun magnitude => if n.negative then -magnitude else magnitude := by
  rw [significand, Nat.ofDigitChars_append] at h ⊢
  have hwhole := gather_eq ((le_ofDigitChars _ _).trans_lt h)
  simp only [toFloat?, hwhole, gather_eq h, List.length_nil, Nat.cast_zero, add_zero, sub_zero,
    power]
  rfl

/-- Up to seventeen digits are read if they can be scaled. -/
theorem toFloat?_isSome_of_digits {n : Numeral} {s : ℕ} {power : ℤ} (hs : n.significand = s)
    (hpower : n.power = power) (hpos : 0 < s) (hlt : s < 10 ^ 17)
    (hbound : 0 ≤ power → s * 10 ^ power.toNat ≤ scaledBound) : n.toFloat?.isSome = true := by
  subst hs hpower
  rw [toFloat?_eq (hlt.trans (by decide)), Option.isSome_map]
  split
  · exact scaleUp?_isSome hpos hlt (hbound ‹_›)
  · rfl

end Numeral

/-! ## Floats below the largest

The digits of a float lie in its interval, so the number that they write is no more than the upper
end. For all floats but the largest that end is below the bound for scaling. -/

namespace Binary

/-- The interval of a float other than the largest ends below the bound. -/
theorem high_le {v : Binary} (hsignificand : v.significand < 2 ^ 53) (hexponent : v.exponent ≤ 971)
    (hne : ¬(v.significand = 2 ^ 53 - 1 ∧ v.exponent = 971)) :
    v.ofQuarters (4 * v.significand + 2) ≤ Numeral.scaledBound := by
  -- a smaller exponent, or the largest exponent and a smaller significand
  rcases lt_or_eq_of_le hexponent with hlt | heq
  · have hquarters : ((4 * v.significand + 2 : ℕ) : ℚ) / 4 ≤ 2 ^ 54 - 3 := by
      have : (v.significand : ℚ) + 1 ≤ 2 ^ 53 := by exact_mod_cast hsignificand
      push_cast
      linarith
    have hpow : (2 : ℚ) ^ v.exponent ≤ 2 ^ (970 : ℤ) :=
      zpow_le_zpow_right₀ (by norm_num) (by omega)
    rw [ofQuarters, Numeral.scaledBound_eq]
    exact mul_le_mul hquarters hpow (zpow_nonneg (by norm_num) _) (by norm_num)
  · have hquarters : ((4 * v.significand + 2 : ℕ) : ℚ) / 4 * 2 ≤ 2 ^ 54 - 3 := by
      have : (v.significand : ℚ) + 2 ≤ 2 ^ 53 := by
        exact_mod_cast (by omega : v.significand + 2 ≤ 2 ^ 53)
      push_cast
      linarith
    rw [ofQuarters, Numeral.scaledBound_eq, heq, show (971 : ℤ) = 1 + 970 from rfl,
      zpow_add₀ (by norm_num), zpow_one, ← mul_assoc]
    exact mul_le_mul_of_nonneg_right hquarters (zpow_nonneg (by norm_num) _)

end Binary

/-! ## Floats of all sizes

Whatever the layout of the text is, its digits are the same. The text is read by one of the lemmas
above, and the text of the largest float and its opposite by computing. -/

namespace Layout

/-- Up to seventeen digits are read, in whichever layout they are written. -/
theorem toFloat?_numeral_isSome (negative : Bool) {d : Decimal} (hpos : 0 < d.coefficient)
    (hlt : d.coefficient < 10 ^ 17)
    (hbound : 0 ≤ d.exponent → d.coefficient * 10 ^ d.exponent.toNat ≤ Numeral.scaledBound) :
    (Layout.json.numeral negative d).toFloat?.isSome = true := by
  have hwritable := writable_numeral .json negative hpos
  have hlength : (Nat.toDigits 10 d.coefficient).length ≤ 17 :=
    (Nat.length_toDigits_le_iff (by decide) (by decide)).mpr hlt
  have hlength' : 0 < (Nat.toDigits 10 d.coefficient).length := Nat.length_toDigits_pos
  revert hwritable
  simp only [numeral]
  split_ifs with hpositional hexponent hleading <;> intro hwritable
  · -- zeros behind the digits, and one behind the point
    simp only [isPositional, json, Bool.and_eq_true, decide_eq_true_eq] at hpositional
    refine Numeral.toFloat?_isSome_of_fraction hwritable ?_ (by simp [wholeNumber, json]) rfl
    simp only [wholeNumber, List.length_append, List.length_replicate]
    omega
  · -- a point among the digits
    simp only [isPositional, json, Bool.and_eq_true, decide_eq_true_eq] at hpositional
    refine Numeral.toFloat?_isSome_of_fraction hwritable ?_ ?_ rfl
    · rw [List.length_take]
      omega
    · rw [← List.length_pos_iff, List.length_drop]
      omega
  · -- a single zero before the point
    refine Numeral.toFloat?_isSome_of_fraction hwritable (by simp) ?_ rfl
    exact List.append_ne_nil_of_right_ne_nil _ Nat.toDigits_ne_nil
  · -- a power of ten
    refine Numeral.toFloat?_isSome_of_digits ?_ ?_ hpos hlt hbound
    · rw [Numeral.significand, List.take_append_drop, Nat.ofDigitChars_ten_toDigits]
    · simp only [Numeral.power, Option.elim_some, exponent_value, List.length_drop]
      omega

end Layout

namespace Binary

/-- The magnitude of a finite float lies below the largest or is the largest. -/
theorem ofBits_cases {bits : UInt64} (h : bits.toNat / 2 ^ 52 % 2 ^ 11 ≠ 2047) :
    (ofBits bits).significand < 2 ^ 53 ∧ (ofBits bits).exponent ≤ 971 ∧
      ((ofBits bits).significand = 2 ^ 53 - 1 ∧ (ofBits bits).exponent = 971 →
        ofBits bits = ⟨2 ^ 53 - 1, 971, false⟩) := by
  have hfraction : bits.toNat % 2 ^ 52 < 2 ^ 52 := Nat.mod_lt _ (by decide)
  have hlt : bits.toNat / 2 ^ 52 % 2 ^ 11 < 2 ^ 11 := Nat.mod_lt _ (by decide)
  by_cases hscale : bits.toNat / 2 ^ 52 % 2 ^ 11 = 0
  · rw [ofBits_subnormal hscale]
    exact ⟨hfraction.trans (by decide), by norm_num, fun ⟨_, hexponent⟩ => by simp at hexponent⟩
  · rw [ofBits_normal hscale]
    generalize bits.toNat % 2 ^ 52 = fraction at *
    generalize bits.toNat / 2 ^ 52 % 2 ^ 11 = scale at *
    -- only one pattern of bits has both at their largest
    refine ⟨by simp only; omega, by simp only; omega, fun ⟨hmantissa, hexponent⟩ => ?_⟩
    simp only at hmantissa hexponent
    obtain rfl : fraction = 2 ^ 52 - 1 := by omega
    obtain rfl : scale = 2046 := by omega
    rfl

end Binary

theorem toNat_unpackExponent (bits : UInt64) :
    (@unpackExponent .binary64 bits.toBitVec).toNat = bits.toNat / 2 ^ 52 % 2 ^ 11 := by
  rw [unpackExponent, BitVec.toNat_cast, BitVec.extractLsb_toNat, Nat.shiftRight_eq_div_pow]
  rfl

/-- What is stored in the place of the power of two of a finite float. -/
theorem scale_of_isFinite {x : Float} (h : x.isFinite = true) :
    x.toBits.toNat / 2 ^ 52 % 2 ^ 11 ≠ 2047 := by
  intro hscale
  have hexponent : @unpackExponent .binary64 x.toModel.toBits.toBitVec = -1#11 :=
    BitVec.eq_of_toNat_eq ((toNat_unpackExponent x.toBits).trans hscale)
  have hfinite : x.toModel.unpack.isFinite = true := h
  rw [Float.Model.unpack, UnpackedFloat.unpack] at hfinite
  simp only [hexponent, if_true] at hfinite
  split at hfinite <;> cases hfinite

/-- The text of a finite float is read as a float. -/
theorem restored?_isSome {x : Float} (h : x.isFinite = true) : (restored? x).isSome = true := by
  obtain ⟨hsignificand, hexponent, hmax⟩ := Binary.ofBits_cases (scale_of_isFinite h)
  rw [restored?]
  simp only [Layout.numeralOfFloat]
  -- what is read does not depend on the sign
  generalize hnegative : decide (0x8000000000000000 ≤ x.toBits.toNat) = negative
  clear hnegative
  split
  · refine Numeral.toFloat?_isSome_of_fraction ?_ (by simp [Layout.wholeNumber])
      (by simp [Layout.wholeNumber, Layout.json]) rfl
    exact Layout.writable_wholeNumber _ _ (List.forall_mem_singleton.mpr rfl) (by simp) fun _ => rfl
  · rename_i hzero
    -- the largest float is read by itself, and others below the bound
    by_cases hlargest : (Binary.ofBits x.toBits).significand = 2 ^ 53 - 1 ∧
        (Binary.ofBits x.toBits).exponent = 971
    · rw [hmax hlargest]
      cases negative <;> decide +kernel
    · have happroximates := Binary.shortest_approximates (Binary.fits_ofBits x.toBits)
        (Nat.pos_of_ne_zero hzero) Layout.json.tie
      have hhigh := happroximates.covers.bounds.2.trans
        (Binary.high_le hsignificand hexponent hlargest)
      refine Layout.toFloat?_numeral_isSome negative happroximates.pos happroximates.lt
        fun hscale => ?_
      rw [← Int.toNat_of_nonneg hscale, zpow_natCast] at hhigh
      exact_mod_cast hhigh

end EntityQuery
