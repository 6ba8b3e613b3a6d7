import Mathlib

/-!
# Rounding of floats

The arithmetic of floats rounds an exact number to one with a significand of 53 bits.

* `Locates` says what is known of a number that was cut off to a significand, and
  `Locates.isNearest` that this is enough to round it to the nearest.
* `roundWithAccuracy_rounds` says that numbers which are not too small are rounded in the place of
  their last bit, and `Rounds.unique` that there is only one way to do so.
* `roundedFrom_mul`, `roundedFrom_div` and `roundedFrom_toFloat` say that products, quotients and
  words are rounded once.
* `Rounds.exponent_le` says which numbers do not overflow.
-/

namespace EntityQuery

open Float.Model Float.Model.UnpackedFloat

/-! ## Nearest whole numbers

Rounding goes to the nearest whole number of units, and half way between two to the even one. So
there is one nearest number, and it keeps between whole bounds. -/

/-- A whole number that is nearest to a number, and even if another one is just as near. -/
structure IsNearest (x : ℚ) (r : ℕ) : Prop where
  le : |x - r| ≤ 1 / 2
  even : |x - r| = 1 / 2 → Even r

namespace IsNearest

variable {x : ℚ} {r r' : ℕ}

theorem not_lt (h : IsNearest x r) (h' : IsNearest x r') : ¬r < r' := by
  intro hlt
  have hstep : (r : ℚ) + 1 ≤ r' := by exact_mod_cast hlt
  obtain ⟨-, hr⟩ := abs_le.mp h.le
  obtain ⟨hr', -⟩ := abs_le.mp h'.le
  -- the number lies half way between the two, which follow each other
  have hx : x - r = 1 / 2 := by linarith
  have hx' : x - r' = -(1 / 2) := by linarith
  have hsucc : r' = r + 1 := by
    have : (r' : ℚ) = r + 1 := by linarith
    exact_mod_cast this
  have heven := h.even (by rw [hx, abs_of_pos (by norm_num)])
  have heven' := h'.even (by rw [hx', abs_neg, abs_of_pos (by norm_num)])
  rw [Nat.even_iff] at heven heven'
  omega

theorem unique (h : IsNearest x r) (h' : IsNearest x r') : r = r' :=
  Nat.le_antisymm (Nat.not_lt.mp (h'.not_lt h)) (Nat.not_lt.mp (h.not_lt h'))

theorem natCast (n : ℕ) : IsNearest n n :=
  ⟨by norm_num, by norm_num⟩

theorem le_of_natCast_le (h : IsNearest x r) {n : ℕ} (hn : n ≤ x) : n ≤ r := by
  by_contra hlt
  have hstep : (r : ℚ) + 1 ≤ n := by exact_mod_cast Nat.not_le.mp hlt
  linarith [(abs_le.mp h.le).2]

theorem le_of_le_natCast (h : IsNearest x r) {n : ℕ} (hn : x ≤ n) : r ≤ n := by
  by_contra hlt
  have hstep : (n : ℚ) + 1 ≤ r := by exact_mod_cast Nat.not_le.mp hlt
  linarith [(abs_le.mp h.le).1]

/-- Rounding in units of `u` adds half a unit at most. -/
theorem mul_le {u : ℚ} (h : IsNearest (x / u) r) (hu : 0 < u) : r * u ≤ x + u / 2 := by
  have hle : (r : ℚ) ≤ x / u + 1 / 2 := by linarith [(abs_le.mp h.le).1]
  calc r * u ≤ (x / u + 1 / 2) * u := by gcongr
    _ = x + u / 2 := by field_simp

/-- Rounding in units of `u` stays within half a unit. -/
theorem of_div {q u : ℚ} (hu : 0 < u) (hle : |q - r * u| ≤ u / 2)
    (heven : |q - r * u| = u / 2 → Even r) : IsNearest (q / u) r := by
  have hdistance : |q / u - r| = |q - r * u| / u := by
    rw [← abs_of_pos hu, ← abs_div, abs_of_pos hu, sub_div, mul_div_cancel_right₀ _ hu.ne']
  refine ⟨?_, fun heq => heven ?_⟩ <;> rw [hdistance] at *
  · rw [div_le_iff₀ hu]
    linarith
  · rw [div_eq_iff hu.ne'] at heq
    linarith

end IsNearest

/-! ## Cutting off and rounding a significand

Arithmetic keeps the bits of a significand that fit, and of the rest only whether it is nothing,
less than half a unit, half a unit or more. That is enough to round, and it can be kept up while one
bit after the other is cut off. -/

/-- What an accuracy says of the number that a significand was cut off from. -/
def Locates (m : ℕ) (x : ℚ) : Accuracy → Prop
  | .exact => x = m
  | .inexact .lt => m < x ∧ x < m + 1 / 2
  | .inexact .eq => x = m + 1 / 2
  | .inexact .gt => m + 1 / 2 < x ∧ x < m + 1

namespace Locates

variable {m : ℕ} {x : ℚ} {acc : Accuracy} {em : ExtendedMantissa}

theorem bounds (h : Locates m x acc) : m ≤ x ∧ x < m + 1 := by
  rcases acc with _ | _ | _ | _ <;> simp only [Locates] at h <;> constructor <;> linarith

/-- The accuracy says where to round to. -/
theorem isNearest (h : Locates m x acc) : IsNearest x (acc.roundToNearestEven m) := by
  rcases acc with _ | _ | _ | _ <;> simp only [Locates] at h <;>
    simp only [Accuracy.roundToNearestEven]
  · exact h ▸ .natCast m
  · have hlt : |x - m| < 1 / 2 := abs_lt.mpr ⟨by linarith [h.1], by linarith [h.2]⟩
    exact ⟨hlt.le, fun heq => absurd heq hlt.ne⟩
  · -- half way: the even one of the two
    rcases Nat.even_or_odd m with heven | hodd
    · rw [Nat.even_iff.mp heven, Nat.add_zero, h]
      exact ⟨by norm_num, fun _ => heven⟩
    · rw [Nat.odd_iff.mp hodd, h]
      refine ⟨?_, fun _ => hodd.add_one⟩
      rw [abs_le]
      push_cast
      exact ⟨by linarith, by linarith⟩
  · have hlt : |x - (m + 1 : ℕ)| < 1 / 2 := by
      rw [abs_lt]
      push_cast
      exact ⟨by linarith [h.1], by linarith [h.2]⟩
    exact ⟨hlt.le, fun heq => absurd heq hlt.ne⟩

/-- Cutting off one bit more keeps what is known of the number. -/
theorem shiftRightOne (h : Locates em.mantissa x em.accuracy) :
    Locates em.shiftRightOne.mantissa (x / 2) em.shiftRightOne.accuracy := by
  obtain ⟨m, round, sticky⟩ := em
  have hparity : (m : ℚ) = 2 * (m / 2 : ℕ) + (m % 2 : ℕ) := by
    exact_mod_cast (Nat.div_add_mod m 2).symm
  -- by the bit that is cut off and the two that were remembered before
  rcases Nat.mod_two_eq_zero_or_one m with hm | hm <;> rw [hm] at hparity <;>
    cases round <;> cases sticky <;>
    simp [ExtendedMantissa.shiftRightOne, ExtendedMantissa.accuracy, Locates, hm] at h ⊢ <;>
    grind

theorem shiftRight (h : Locates em.mantissa x em.accuracy) (k : ℕ) :
    Locates (em >>> k).mantissa (x / 2 ^ k) (em >>> k).accuracy := by
  induction k with
  | zero => simpa [HShiftRight.hShiftRight, Nat.repeat] using h
  | succ k ih =>
    rw [pow_succ, ← div_div]
    exact ih.shiftRightOne

end Locates

theorem accuracy_ofMantissaAndAccuracy (m : ℕ) (acc : Accuracy) :
    (ExtendedMantissa.ofMantissaAndAccuracy m acc).accuracy = acc ∧
      (ExtendedMantissa.ofMantissaAndAccuracy m acc).mantissa = m := by
  rcases acc with _ | _ | _ | _ <;> exact ⟨rfl, rfl⟩

/-! ## Rounding a number

A significand that is long enough is cut off to 53 bits and rounded, in the place that its own first
bit determines. If rounding carries into a bit more, the significand is cut off again, which takes
away a zero. -/

/-- A significand of 53 bits with the power of two in which a number is rounded. The number is
rounded to the nearest whole one in the units of its own first bit. Only a carry out of the last
place leaves a unit twice as large. -/
structure Rounds (q : ℚ) (m : ℕ) (e : ℤ) : Prop where
  low : 2 ^ 52 ≤ m
  high : m < 2 ^ 53
  nearest : ∃ (t : ℤ) (r : ℕ), 2 ^ 52 * 2 ^ t ≤ q ∧ q < 2 ^ 53 * 2 ^ t ∧ IsNearest (q / 2 ^ t) r ∧
    t ≤ e ∧ (m : ℚ) * 2 ^ e = r * 2 ^ t

theorem targetExponent_of_normal {m : ℕ} {e : ℤ} (h : -1022 ≤ (m.log2 : ℤ) + e) :
    Format.binary64.targetExponent (totalExponent m e) = m.log2 + e - 52 := by
  simp only [Format.targetExponent, Format.minExponent, Format.mantissaBits, totalExponent]
  rw [max_eq_left (by norm_num; omega)]
  push_cast
  ring

theorem shiftToTargetExponent_of_normal {m k : ℕ} {e : ℤ} (acc : Accuracy)
    (hk : m.log2 = 52 + k) (h : -1022 ≤ (m.log2 : ℤ) + e) :
    shiftToTargetExponent Format.binary64 m e acc =
      (ExtendedMantissa.ofMantissaAndAccuracy m acc >>> k, e + k) := by
  have hshift : ((m.log2 : ℤ) + e - 52 - e).toNat = k := by omega
  simp only [shiftToTargetExponent, targetExponent_of_normal h, shiftToExponent, hshift]

/-- Rounding, in terms of the two times that bits are cut off. -/
theorem roundWithAccuracy_eq {s : Sign} {m r m' : ℕ} {e e₁ e₂ : ℤ} {acc : Accuracy}
    {em₁ em₂ : ExtendedMantissa}
    (h₁ : shiftToTargetExponent Format.binary64 m e acc = (em₁, e₁))
    (hr : em₁.roundedMantissa = r)
    (h₂ : shiftToTargetExponent Format.binary64 r e₁ .exact = (em₂, e₂))
    (hm' : em₂.mantissa = m') (hpos : 0 < m') :
    roundWithAccuracy Format.binary64 s m e acc = .finite s m' e₂ hpos := by
  subst hr hm'
  simp only [roundWithAccuracy, h₁, h₂]
  exact dif_neg (Nat.pos_iff_ne_zero.mp hpos)

/-- The place of the first bit, for a number that a significand was cut off from. -/
theorem Locates.place {m k : ℕ} {x : ℚ} {acc : Accuracy} (h : Locates m x acc)
    (hk : m.log2 = 52 + k) (hm : 0 < m) : 2 ^ 52 ≤ x / 2 ^ k ∧ x / 2 ^ k < 2 ^ 53 := by
  have hself : 2 ^ (52 + k) ≤ m := hk ▸ Nat.log2_self_le (Nat.pos_iff_ne_zero.mp hm)
  have hlt : m + 1 ≤ 2 ^ (53 + k) := by
    have := Nat.lt_log2_self (n := m)
    rwa [hk, Nat.add_right_comm] at this
  have hself : (2 : ℚ) ^ 52 * 2 ^ k ≤ m := by
    rw [← pow_add]
    exact_mod_cast hself
  have hlt : (m : ℚ) + 1 ≤ 2 ^ 53 * 2 ^ k := by
    rw [← pow_add]
    exact_mod_cast hlt
  rw [le_div_iff₀ (by positivity), div_lt_iff₀ (by positivity)]
  exact ⟨hself.trans h.bounds.1, h.bounds.2.trans_le hlt⟩

/-- A number that is not too small is rounded to a significand of 53 bits. -/
theorem roundWithAccuracy_rounds (s : Sign) {m : ℕ} {e : ℤ} {x : ℚ} {acc : Accuracy}
    (hx : Locates m x acc) (hm : 2 ^ 52 ≤ m) (h : -1022 ≤ (m.log2 : ℤ) + e) :
    ∃ m' e' hpos, roundWithAccuracy Format.binary64 s m e acc = .finite s m' e' hpos ∧
      Rounds (x * 2 ^ e) m' e' := by
  obtain ⟨k, hk⟩ := Nat.exists_eq_add_of_le ((Nat.le_log2 (by omega)).mpr hm)
  have hfirst := shiftToTargetExponent_of_normal acc hk h
  obtain ⟨haccuracy, hmantissa⟩ := accuracy_ofMantissaAndAccuracy m acc
  have hcut : Locates (ExtendedMantissa.ofMantissaAndAccuracy m acc).mantissa x
      (ExtendedMantissa.ofMantissaAndAccuracy m acc).accuracy := by
    rwa [haccuracy, hmantissa]
  have hnearest : IsNearest (x / 2 ^ k)
      (ExtendedMantissa.ofMantissaAndAccuracy m acc >>> k).roundedMantissa :=
    (hcut.shiftRight k).isNearest
  -- the first bit of the number is the first bit of what is left
  obtain ⟨hlow, hhigh⟩ := hx.place hk (by omega)
  generalize hround :
    (ExtendedMantissa.ofMantissaAndAccuracy m acc >>> k).roundedMantissa = r at *
  have hr52 : 2 ^ 52 ≤ r := hnearest.le_of_natCast_le (by exact_mod_cast hlow)
  have hr53 : r ≤ 2 ^ 53 := hnearest.le_of_le_natCast (by exact_mod_cast hhigh.le)
  have hpow : (2 : ℚ) ^ (e + k) = 2 ^ e * 2 ^ k := by
    rw [zpow_add₀ (by norm_num), zpow_natCast]
  have hplace : 2 ^ 52 * 2 ^ (e + k) ≤ x * 2 ^ e ∧ x * 2 ^ e < 2 ^ 53 * 2 ^ (e + k) ∧
      IsNearest (x * 2 ^ e / 2 ^ (e + k)) r := by
    have hunit : (0 : ℚ) < 2 ^ (e + k) := by positivity
    have hscaled : x * 2 ^ e / 2 ^ (e + k) = x / 2 ^ k := by
      rw [hpow]
      field_simp
    rw [← le_div_iff₀ hunit, ← div_lt_iff₀ hunit, hscaled]
    exact ⟨hlow, hhigh, hnearest⟩
  -- rounding up carries into a bit more or it does not
  rcases Nat.lt_or_eq_of_le hr53 with hlt | rfl
  · have hlog : r.log2 = 52 + 0 := (Nat.log2_eq_iff (by omega)).mpr ⟨hr52, hlt⟩
    have hsecond := shiftToTargetExponent_of_normal (e := e + k) .exact hlog (by omega)
    refine ⟨r, e + k + (0 : ℕ), by omega, roundWithAccuracy_eq hfirst hround hsecond rfl _,
      hr52, hlt, e + k, r, hplace.1, hplace.2.1, hplace.2.2, by omega, by simp⟩
  · -- rounding up has carried into a bit more, which is a zero
    have hlog : (2 ^ 53 : ℕ).log2 = 52 + 1 := by decide
    have hsecond := shiftToTargetExponent_of_normal (e := e + k) .exact hlog (by omega)
    refine ⟨2 ^ 52, e + k + (1 : ℕ), by omega, roundWithAccuracy_eq hfirst hround hsecond rfl _,
      Nat.le_refl _, by decide, e + k, 2 ^ 53, hplace.1, hplace.2.1, hplace.2.2, by omega, ?_⟩
    rw [zpow_add₀ (by norm_num)]
    push_cast
    ring

/-- A number that lies below another has its first bit no further to the left. -/
theorem le_of_place_lt {s t : ℤ} (h : (2 : ℚ) ^ 52 * 2 ^ s < 2 ^ 53 * 2 ^ t) : s ≤ t := by
  have hpow : (2 : ℚ) ^ (52 + s) < 2 ^ (53 + t) := by
    rw [zpow_add₀ (by norm_num), zpow_add₀ (by norm_num)]
    exact h
  have := (zpow_lt_zpow_iff_right₀ (by norm_num)).mp hpow
  omega

/-- The first bit of a number has one place. -/
theorem place_unique {q : ℚ} {s t : ℤ} (hs : 2 ^ 52 * 2 ^ s ≤ q ∧ q < 2 ^ 53 * 2 ^ s)
    (ht : 2 ^ 52 * 2 ^ t ≤ q ∧ q < 2 ^ 53 * 2 ^ t) : s = t :=
  le_antisymm (le_of_place_lt (hs.1.trans_lt ht.2)) (le_of_place_lt (ht.1.trans_lt hs.2))

namespace Rounds

variable {q : ℚ} {m m' : ℕ} {e e' : ℤ}

/-- The rounded number has its first bit in the place of its exponent. -/
theorem place (h : Rounds q m e) :
    2 ^ 52 * 2 ^ e ≤ (m * 2 ^ e : ℚ) ∧ (m * 2 ^ e : ℚ) < 2 ^ 53 * 2 ^ e := by
  have hlow : (2 : ℚ) ^ 52 ≤ m := by exact_mod_cast h.low
  have hhigh : (m : ℚ) < 2 ^ 53 := by exact_mod_cast h.high
  exact ⟨by gcongr, by gcongr⟩

/-- Rounding has one result. -/
theorem unique (h : Rounds q m e) (h' : Rounds q m' e') : m = m' ∧ e = e' := by
  obtain ⟨t, r, hle, hlt, hnearest, -, heq⟩ := h.nearest
  obtain ⟨t', r', hle', hlt', hnearest', -, heq'⟩ := h'.nearest
  obtain rfl := place_unique ⟨hle, hlt⟩ ⟨hle', hlt'⟩
  rw [← hnearest.unique hnearest', ← heq] at heq'
  obtain rfl := place_unique h.place (heq' ▸ h'.place)
  have hm := mul_right_cancel₀ (show (2 : ℚ) ^ e ≠ 0 by positivity) heq'
  exact ⟨by exact_mod_cast hm.symm, rfl⟩

/-- A number that is not too small is rounded to one with an exponent that is not too small. -/
theorem le_exponent (h : Rounds q m e) {a : ℤ} (hq : 2 ^ a ≤ q) : a - 52 ≤ e := by
  obtain ⟨t, r, -, hlt, -, ht, -⟩ := h.nearest
  have hpow : (2 : ℚ) ^ a < 2 ^ (53 + t) := by
    rw [zpow_add₀ (by norm_num)]
    exact hq.trans_lt hlt
  have := (zpow_lt_zpow_iff_right₀ (by norm_num)).mp hpow
  omega

variable {N k : ℕ}

/-- A whole number is rounded to itself if it is whole in the units of its first bit, or of a bit
before that one. -/
theorem eq_of_dvd (h : Rounds N m e) (hlt : N < 2 ^ (53 + k)) (hdvd : 2 ^ k ∣ N) :
    (m : ℚ) * 2 ^ e = N := by
  obtain ⟨t, r, hle, -, hnearest, -, heq⟩ := h.nearest
  have hcast : (N : ℚ) < 2 ^ 53 * 2 ^ (k : ℤ) := by
    rw [zpow_natCast, ← pow_add]
    exact_mod_cast hlt
  have ht := le_of_place_lt (hle.trans_lt hcast)
  obtain ⟨j, hj⟩ := Int.eq_ofNat_of_zero_le (Int.sub_nonneg.mpr ht)
  obtain ⟨c, rfl⟩ := hdvd
  -- a whole number of the units that it is rounded in
  have hunits : ((2 ^ k * c : ℕ) : ℚ) = (2 ^ j * c : ℕ) * 2 ^ t := by
    rw [show t = (k : ℤ) - j by omega, zpow_sub₀ (by norm_num), zpow_natCast, zpow_natCast]
    push_cast
    field_simp
  rw [hunits, mul_div_cancel_right₀ _ (by positivity)] at hnearest
  rw [heq, hunits, hnearest.unique (.natCast _)]

/-- Rounding adds at most one unit for every `2 ^ 53`. -/
theorem le_add (h : Rounds N m e) : (m : ℚ) * 2 ^ e ≤ N + (N / 2 ^ 53 : ℕ) := by
  -- up to 53 bits nothing is rounded
  rcases Nat.lt_or_ge N (2 ^ 53) with hsmall | hlarge
  · rw [h.eq_of_dvd (k := 0) hsmall (one_dvd _)]
    exact le_add_of_nonneg_right (Nat.cast_nonneg _)
  · obtain ⟨t, r, hle, hlt, hnearest, -, heq⟩ := h.nearest
    -- with more bits the unit is two at least, and half of it is no more than the quotient
    have hplace : (2 : ℚ) ^ 52 * 2 ^ (1 : ℤ) ≤ N := by
      have hcast : (2 : ℚ) ^ 53 ≤ N := by exact_mod_cast hlarge
      linarith
    have ht := le_of_place_lt (hplace.trans_lt hlt)
    obtain ⟨j, rfl⟩ := Int.eq_succ_of_zero_lt (show 0 < t by omega)
    have hround := hnearest.mul_le (by positivity)
    have hpow : (2 : ℚ) ^ ((j : ℤ) + 1) = 2 * 2 ^ j := by
      rw [zpow_add_one₀ (by norm_num), zpow_natCast, mul_comm]
    rw [hpow] at hle hround heq
    have hle : 2 ^ j * 2 ^ 53 ≤ N := by
      exact_mod_cast (by linarith : (2 : ℚ) ^ j * 2 ^ 53 ≤ N)
    have hhalf : (2 : ℚ) ^ j ≤ (N / 2 ^ 53 : ℕ) := by
      exact_mod_cast (Nat.le_div_iff_mul_le (by positivity)).mpr hle
    rw [heq]
    linarith

/-- A whole number with more bits is rounded in the units of its first bit. -/
theorem le_of_place (h : Rounds N m e) (hlow : 2 ^ (52 + k) ≤ N) (hhigh : N < 2 ^ (53 + k)) :
    (m : ℚ) * 2 ^ e ≤ ((2 * N + 2 ^ k) / 2 ^ (k + 1) * 2 ^ k : ℕ) := by
  obtain ⟨t, r, hle, hlt, hnearest, -, heq⟩ := h.nearest
  have hplace : 2 ^ 52 * 2 ^ (k : ℤ) ≤ (N : ℚ) ∧ (N : ℚ) < 2 ^ 53 * 2 ^ (k : ℤ) := by
    rw [zpow_natCast, ← pow_add, ← pow_add]
    exact ⟨by exact_mod_cast hlow, by exact_mod_cast hhigh⟩
  obtain rfl := place_unique ⟨hle, hlt⟩ hplace
  have hround := hnearest.mul_le (by positivity)
  rw [heq, Nat.cast_mul, Nat.cast_pow, zpow_natCast] at *
  have hr : r ≤ (2 * N + 2 ^ k) / 2 ^ (k + 1) := by
    rw [Nat.le_div_iff_mul_le (by positivity), pow_succ]
    have : (2 : ℚ) * (r * 2 ^ k) ≤ 2 * N + 2 ^ k := by linarith
    have : 2 * (r * 2 ^ k) ≤ 2 * N + 2 ^ k := by exact_mod_cast this
    linarith
  push_cast
  gcongr

end Rounds

/-- What is less than half a unit below a power of two is rounded up to it, in the units below. -/
theorem rounds_two_pow {q : ℚ} {e : ℤ} (hlow : 2 ^ 52 * 2 ^ e - 2 ^ e / 4 ≤ q)
    (hhigh : q < 2 ^ 52 * 2 ^ e) : Rounds q (2 ^ 52) e := by
  have hhalf : (2 : ℚ) ^ e = 2 ^ (e - 1) * 2 := by
    rw [← zpow_add_one₀ (by norm_num), sub_add_cancel]
  have hunit : (0 : ℚ) < 2 ^ (e - 1) := by positivity
  rw [hhalf] at hlow hhigh
  -- in the units below the power of two, that power is the nearest whole number
  have hnearest : IsNearest (q / 2 ^ (e - 1)) (2 ^ 53) := by
    refine .of_div hunit (abs_le.mpr ?_) fun _ => by decide
    push_cast
    exact ⟨by linarith, by linarith⟩
  refine ⟨le_rfl, by decide, e - 1, 2 ^ 53, by linarith, by linarith, hnearest, by omega, ?_⟩
  rw [hhalf]
  push_cast
  ring

/-- The least number that is rounded beyond all floats. -/
def overflow : ℚ :=
  2 ^ (1024 : ℤ) - 2 ^ (970 : ℤ)

/-- What is rounded from below the bound keeps an exponent that can be stored. -/
theorem Rounds.exponent_le {q : ℚ} {m : ℕ} {e : ℤ} (h : Rounds q m e) (hq : q < overflow) :
    e ≤ 971 := by
  obtain ⟨t, r, hle, hlt, hnearest, ht, heq⟩ := h.nearest
  by_contra he
  have hunit : (0 : ℚ) < 2 ^ t := by positivity
  have hlarge : (2 : ℚ) ^ (1024 : ℤ) ≤ m * 2 ^ e := by
    have hpow : (2 : ℚ) ^ (972 : ℤ) ≤ 2 ^ e := zpow_le_zpow_right₀ (by norm_num) (by omega)
    have hm : (2 : ℚ) ^ 52 ≤ m := by exact_mod_cast h.low
    calc (2 : ℚ) ^ (1024 : ℤ) = 2 ^ 52 * 2 ^ (972 : ℤ) := by
          rw [← zpow_natCast, ← zpow_add₀ (by norm_num)]
          rfl
      _ ≤ m * 2 ^ e := by gcongr
  have hround := hnearest.mul_le hunit
  -- the number lies below the last power of two, so its unit is no larger than the last one
  have hpow : (2 : ℚ) ^ (52 + t) < 2 ^ (1024 : ℤ) := by
    rw [zpow_add₀ (by norm_num)]
    exact hle.trans_lt (hq.trans_le (sub_le_self _ (by positivity)))
  have hhalf : (2 : ℚ) ^ t / 2 ≤ 2 ^ (970 : ℤ) := by
    have := (zpow_lt_zpow_iff_right₀ (by norm_num)).mp hpow
    rw [div_eq_mul_inv, ← zpow_sub_one₀ (by norm_num)]
    exact zpow_le_zpow_right₀ (by norm_num) (by omega)
  rw [overflow] at hq
  linarith

/-! ## Packing a number -/

/-- What is stored with all bits of its significand is read as it was. -/
theorem unpack_pack_normal (s : Sign) {m : ℕ} {e : ℤ} (hpos : 0 < m) (hlow : 2 ^ 52 ≤ m)
    (hhigh : m < 2 ^ 53) (hmin : -1074 ≤ e) (hmax : e ≤ 971) :
    (Float.Model.pack (.finite s m e hpos)).unpack = .finite s m e hpos := by
  obtain ⟨biased, hbiased⟩ := Int.eq_ofNat_of_zero_le (show 0 ≤ e + 1075 by omega)
  have hlog : m.log2 = 52 := (Nat.log2_eq_iff (by omega)).mpr ⟨hlow, hhigh⟩
  have hexponent : (e + (Format.binary64.exponentBias : ℤ) +
      (Format.binary64.mantissaBitsWithoutImplicit : ℤ)).toNat = biased := by
    simp only [Format.exponentBias]
    omega
  have hpack : UnpackedFloat.pack Format.binary64 (.finite s m e hpos) =
      packComponents Format.binary64 s (BitVec.ofNat 11 biased) (BitVec.ofNat 52 m) := by
    simp only [UnpackedFloat.pack, hexponent, hlog]
    rw [if_neg (by norm_num; omega), if_pos (by decide)]
  -- neither the exponent of the infinities nor that of the smallest floats
  have hinfinity : BitVec.ofNat 11 biased ≠ -1#11 := fun hall => by
    have := congrArg BitVec.toNat hall
    simp at this
    omega
  have hzero : BitVec.ofNat 11 biased ≠ 0#11 := fun hall => by
    have := congrArg BitVec.toNat hall
    simp at this
    omega
  show UnpackedFloat.unpack Format.binary64
    (UnpackedFloat.pack Format.binary64 (.finite s m e hpos)) = _
  rw [hpack, UnpackedFloat.unpack]
  simp only [unpackExponent_packComponents, unpackMantissa_packComponents,
    unpackSign_packComponents, Sign.ofBitVec_toBitVec]
  rw [if_neg hinfinity, if_neg hzero]
  congr 1
  · -- the bit before the point is not stored
    rw [BitVec.toNat_append, BitVec.toNat_ofNat, BitVec.toNat_ofNat, ← Nat.shiftLeft_add_eq_or_of_lt
      (Nat.mod_lt _ (by positivity)), Nat.shiftLeft_eq]
    omega
  · rw [BitVec.toNat_ofNat, Nat.mod_eq_of_lt (by omega)]
    simp only [Format.exponentBias]
    omega

/-! ## Floats from one on

The operations that read a numeral work on positive floats with all bits of their significands. For
these a product, a quotient and a word are the exact number rounded once, and their sizes bound the
result. -/

/-- A float and the number it is, for positive floats with all bits of their significand. -/
structure Normal (x : Float) (q : ℚ) : Prop where
  exists_unpack : ∃ m e hpos, x.toModel.unpack = .finite .positive m e hpos ∧ 2 ^ 52 ≤ m ∧
    m < 2 ^ 53 ∧ 0 ≤ 52 + e ∧ q = m * 2 ^ e

theorem Normal.one_le {x : Float} {q : ℚ} (h : Normal x q) : 1 ≤ q := by
  obtain ⟨m, e, -, -, hlow, -, he, rfl⟩ := h
  have hm : (2 : ℚ) ^ 52 ≤ m := by exact_mod_cast hlow
  calc (1 : ℚ) ≤ 2 ^ (52 + e) := one_le_zpow₀ (by norm_num) he
    _ = 2 ^ 52 * 2 ^ e := by rw [zpow_add₀ (by norm_num)]; rfl
    _ ≤ m * 2 ^ e := by gcongr

/-- How often the last bit of one goes into a float, for floats from one on. -/
def units? (x : Float) : Option ℕ :=
  match x.toModel.unpack with
  | .finite .positive m e _ =>
    if 2 ^ 52 ≤ m ∧ m < 2 ^ 53 ∧ 0 ≤ 52 + e then some (m * 2 ^ (52 + e).toNat) else none
  | _ => none

theorem normal_of_units? {x : Float} {n : ℕ} (h : units? x = some n) : Normal x (n / 2 ^ 52) := by
  simp only [units?] at h
  split at h
  · rename_i m e hm hunpack
    obtain ⟨⟨hlow, hhigh, he⟩, hn⟩ := Option.ite_none_right_eq_some.mp h
    obtain rfl := Option.some.inj hn
    refine ⟨m, e, hm, hunpack, hlow, hhigh, he, ?_⟩
    have hpow : (2 : ℚ) ^ (52 + e).toNat = 2 ^ 52 * 2 ^ e := by
      rw [← zpow_natCast, Int.toNat_of_nonneg he, zpow_add₀ (by norm_num)]
      rfl
    push_cast [hpow]
    field_simp
  · cases h

/-- A float that a positive number is rounded to. -/
def RoundedFrom (x : Float) (q : ℚ) : Prop :=
  ∃ m e hpos, x.toModel = Float.Model.pack (.finite .positive m e hpos) ∧ Rounds q m e

namespace RoundedFrom

variable {x : Float} {q : ℚ}

/-- What is rounded and does not overflow is stored as it was rounded. -/
theorem unpack (h : RoundedFrom x q) (hlow : 2 ^ (-1022 : ℤ) ≤ q) (hhigh : q < overflow) :
    ∃ m e hpos, x.toModel.unpack = .finite .positive m e hpos ∧ Rounds q m e := by
  obtain ⟨m, e, hpos, hx, hrounds⟩ := h
  refine ⟨m, e, hpos, ?_, hrounds⟩
  rw [hx]
  exact unpack_pack_normal .positive hpos hrounds.low hrounds.high
    (by have := hrounds.le_exponent hlow; omega) (hrounds.exponent_le hhigh)

/-- What is rounded from below the bound does not overflow. -/
theorem isInf_eq_false (h : RoundedFrom x q) (hlow : 2 ^ (-1022 : ℤ) ≤ q) (hhigh : q < overflow) :
    x.isInf = false := by
  obtain ⟨m, e, hpos, hunpack, -⟩ := h.unpack hlow hhigh
  show x.toModel.unpack.isInf = false
  rw [hunpack]
  rfl

/-- What is rounded from one or more and does not overflow is such a float. -/
theorem normal (h : RoundedFrom x q) (hlow : 1 ≤ q) (hhigh : q < overflow) :
    ∃ (m : ℕ) (e : ℤ), Normal x (m * 2 ^ e) ∧ Rounds q m e := by
  have hsmall : (2 : ℚ) ^ (-1022 : ℤ) ≤ q :=
    (zpow_le_one_of_nonpos₀ (by norm_num) (by norm_num)).trans hlow
  obtain ⟨m, e, hpos, hunpack, hrounds⟩ := h.unpack hsmall hhigh
  have he := hrounds.le_exponent (a := 0) (by simpa using hlow)
  exact ⟨m, e, ⟨m, e, hpos, hunpack, hrounds.low, hrounds.high, by omega, rfl⟩, hrounds⟩

end RoundedFrom

theorem log2_eq_of_bounds {m k : ℕ} (hlow : 2 ^ k ≤ m) (hhigh : m < 2 ^ (k + 1)) : m.log2 = k :=
  (Nat.log2_eq_iff (by have := Nat.two_pow_pos k; omega)).mpr ⟨hlow, hhigh⟩

/-- A product is rounded to the nearest float. -/
theorem roundedFrom_mul {x y : Float} {p q : ℚ} (hx : Normal x p) (hy : Normal y q) :
    RoundedFrom (x * y) (p * q) := by
  obtain ⟨m, e, hm, hunpack, hlow, -, he, rfl⟩ := hx
  obtain ⟨m', e', hm', hunpack', hlow', -, he', rfl⟩ := hy
  -- the product of two significands has more than enough bits
  have hlarge : 2 ^ 104 ≤ m * m' := (Nat.mul_le_mul hlow hlow').trans' (by decide)
  have hlog : 104 ≤ (m * m').log2 := (Nat.le_log2 (by omega)).mpr hlarge
  obtain ⟨r, f, hr, hround, hrounds⟩ :=
    roundWithAccuracy_rounds (.positive * .positive) (e := e + e')
      (show Locates (m * m') (m * m' : ℕ) .exact from rfl) (by omega) (by omega)
  refine ⟨r, f, hr, ?_, ?_⟩
  · show Float.Model.pack (UnpackedFloat.mul _ x.toModel.unpack y.toModel.unpack) = _
    rw [hunpack, hunpack', UnpackedFloat.mul, hround]
    rfl
  · convert hrounds using 1
    rw [zpow_add₀ (by norm_num)]
    push_cast
    ring

/-- What is left of a division says where the quotient lies. -/
theorem locates_div (m : ℕ) {n : ℕ} (hn : 0 < n) :
    Locates (m / n) (m / n : ℚ) (accuracyOfFraction (m % n) n) := by
  have hn' : (0 : ℚ) < n := by exact_mod_cast hn
  have hquotient : (m : ℚ) / n = (m / n : ℕ) + (m % n : ℕ) / n := by
    have hdiv : (n : ℚ) * (m / n : ℕ) + (m % n : ℕ) = m := by exact_mod_cast Nat.div_add_mod m n
    field_simp
    linarith
  have hlt : (m % n : ℕ) < n := Nat.mod_lt m hn
  rw [hquotient]
  generalize m % n = num at *
  rw [accuracyOfFraction]
  split
  · rename_i hzero
    simp [Locates, hzero]
  · have hpos : (0 : ℚ) < num := by exact_mod_cast Nat.pos_of_ne_zero ‹_›
    have hlt : (num : ℚ) < n := by exact_mod_cast hlt
    have hpos := div_pos hpos hn'
    have hlt := (div_lt_one hn').mpr hlt
    -- the rest of the division is less than half of the divisor, half of it or more
    cases hcompare : compare (2 * num) n with
    | lt =>
      have hhalf : (2 * num : ℚ) < n := by exact_mod_cast Nat.compare_eq_lt.mp hcompare
      have hhalf : (num : ℚ) / n < 1 / 2 := (div_lt_iff₀ hn').mpr (by linarith)
      exact ⟨by linarith, by linarith⟩
    | eq =>
      have hhalf : (2 * num : ℚ) = n := by exact_mod_cast Nat.compare_eq_eq.mp hcompare
      have hhalf : (num : ℚ) / n = 1 / 2 := (div_eq_iff hn'.ne').mpr (by linarith)
      exact congrArg _ hhalf
    | gt =>
      have hhalf : (n : ℚ) < 2 * num := by exact_mod_cast Nat.compare_eq_gt.mp hcompare
      have hhalf : 1 / 2 < (num : ℚ) / n := (lt_div_iff₀ hn').mpr (by linarith)
      exact ⟨by linarith, by linarith⟩

/-- A quotient is rounded to the nearest float, if it is not too small. -/
theorem roundedFrom_div {x y : Float} {p q : ℚ} (hx : Normal x p) (hy : Normal y q)
    (h : 2 ^ (-1000 : ℤ) ≤ p / q) : RoundedFrom (x / y) (p / q) := by
  obtain ⟨m, e, hm, hunpack, hlow, hhigh, -, rfl⟩ := hx
  obtain ⟨m', e', hm', hunpack', hlow', hhigh', -, rfl⟩ := hy
  have hlog : m.log2 = 52 := log2_eq_of_bounds hlow hhigh
  have hlog' : m'.log2 = 52 := log2_eq_of_bounds hlow' hhigh'
  have hmq : (0 : ℚ) < m' := by exact_mod_cast hm'
  -- a quotient that is not too small keeps its exponent in range
  have hexponent : -1000 < e - e' + 1 := by
    have hm : (m : ℚ) < 2 ^ 53 := by exact_mod_cast hhigh
    have hm' : (2 : ℚ) ^ 52 ≤ m' := by exact_mod_cast hlow'
    have hpow : (2 : ℚ) ^ (-1000 : ℤ) < 2 ^ (e - e' + 1) := by
      refine h.trans_lt ((div_lt_iff₀ (by positivity)).mpr ?_)
      calc (m : ℚ) * 2 ^ e < 2 ^ 53 * 2 ^ e := by gcongr
        _ = 2 ^ (e - e' + 1) * (2 ^ 52 * 2 ^ e') := by
          rw [zpow_add_one₀ (by norm_num), zpow_sub₀ (by norm_num)]
          field_simp
        _ ≤ 2 ^ (e - e' + 1) * (m' * 2 ^ e') := by gcongr
    exact (zpow_lt_zpow_iff_right₀ (by norm_num)).mp hpow
  -- the dividend is widened by 53 bits before it is divided
  have hcore : divCore Format.binary64 m e m' e' =
      (m * 2 ^ 53 / m', e - e' - 53, accuracyOfFraction (m * 2 ^ 53 % m') m') := by
    have htarget : min (e - e')
        (Format.binary64.targetExponent (totalExponent m e - totalExponent m' e')) =
        e - e' - 53 := by
      simp only [Format.targetExponent, Format.minExponent, Format.mantissaBits, totalExponent,
        hlog, hlog']
      norm_num
      omega
    have hshift : (e - e' - (e - e' - 53)).toNat = 53 := by omega
    simp only [divCore, htarget, hshift, Nat.shiftLeft_eq]
  have hquotient : 2 ^ 52 ≤ m * 2 ^ 53 / m' := by
    rw [Nat.le_div_iff_mul_le hm']
    omega
  have hlogq : 52 ≤ (m * 2 ^ 53 / m').log2 := (Nat.le_log2 (by omega)).mpr hquotient
  obtain ⟨r, f, hr, hround, hrounds⟩ :=
    roundWithAccuracy_rounds (.positive / .positive) (e := e - e' - 53)
      (locates_div (m * 2 ^ 53) hm') hquotient (by omega)
  refine ⟨r, f, hr, ?_, ?_⟩
  · show Float.Model.pack (UnpackedFloat.div _ x.toModel.unpack y.toModel.unpack) = _
    rw [hunpack, hunpack', UnpackedFloat.div, hcore]
    simp only [hround]
    rfl
  · convert hrounds using 1
    rw [zpow_sub₀ (by norm_num), zpow_sub₀ (by norm_num)]
    push_cast
    field_simp

/-- A word is rounded to the nearest float. -/
theorem roundedFrom_toFloat {n : UInt64} (h : 0 < n.toNat) : RoundedFrom n.toFloat n.toNat := by
  -- the word is first widened to 53 bits, if it has fewer
  generalize ha : 52 - n.toNat.log2 = a
  have hself : 2 ^ n.toNat.log2 ≤ n.toNat := Nat.log2_self_le (by omega)
  have hlog : (n.toNat * 2 ^ a).log2 = n.toNat.log2 + a := by
    refine log2_eq_of_bounds ?_ ?_
    · rw [pow_add]
      exact Nat.mul_le_mul_right _ hself
    · rw [Nat.add_right_comm, pow_add]
      exact Nat.mul_lt_mul_of_pos_right Nat.lt_log2_self (by positivity)
  have hlow : 2 ^ 52 ≤ n.toNat * 2 ^ a :=
    (Nat.le_log2 (by positivity)).mp (by omega)
  have hcompare : compare (n.toNat : ℤ) 0 = .gt := Int.compare_eq_gt.mpr (by omega)
  have hshift : (0 - ((n.toNat.log2 : ℤ) + 0 - 52)).toNat = a := by omega
  have hof : UnpackedFloat.ofUInt64 Format.binary64 n =
      roundWithAccuracy Format.binary64 .positive (n.toNat * 2 ^ a) (0 - a) .exact := by
    simp only [UnpackedFloat.ofUInt64, UnpackedFloat.ofNat, UnpackedFloat.ofInt,
      UnpackedFloat.normalize, hcompare, UnpackedFloat.round, Int.toNat_natCast, decreaseExponent,
      targetExponent_of_normal (m := n.toNat) (e := 0) (by omega), hshift, Nat.shiftLeft_eq]
  obtain ⟨m, e, hm, hround, hrounds⟩ :=
    roundWithAccuracy_rounds .positive (e := 0 - a)
      (show Locates (n.toNat * 2 ^ a) (n.toNat * 2 ^ a : ℕ) .exact from rfl) hlow (by omega)
  refine ⟨m, e, hm, ?_, ?_⟩
  · show Float.Model.pack (UnpackedFloat.ofUInt64 Format.binary64 n) = _
    rw [hof, hround]
  · convert hrounds using 1
    rw [zero_sub, zpow_neg, zpow_natCast]
    push_cast
    field_simp

theorem lt_overflow {k : ℕ} {q : ℚ} (hq : q < 2 ^ k) (hk : k ≤ 1023) : q < overflow := by
  refine hq.trans_le ?_
  have hle : (2 : ℚ) ^ k ≤ 2 ^ (1023 : ℤ) := by
    rw [← zpow_natCast]
    exact zpow_le_zpow_right₀ (by norm_num) (by omega)
  have hlt : (2 : ℚ) ^ (970 : ℤ) ≤ 2 ^ (1023 : ℤ) := zpow_le_zpow_right₀ (by norm_num) (by norm_num)
  have hdouble : (2 : ℚ) ^ (1024 : ℤ) = 2 ^ (1023 : ℤ) * 2 := by
    rw [← zpow_add_one₀ (by norm_num)]
    rfl
  rw [overflow, hdouble]
  generalize (2 : ℚ) ^ (1023 : ℤ) = a at *
  generalize (2 : ℚ) ^ (970 : ℤ) = b at *
  linarith

/-- The float nearest to a word is that word, if 53 bits are enough, and is otherwise larger by at
most one unit for every `2 ^ 53`. -/
theorem normal_toFloat {n : UInt64} (h : 0 < n.toNat) :
    ∃ q, Normal n.toFloat q ∧ (n.toNat < 2 ^ 53 → q = n.toNat) ∧
      q ≤ n.toNat + (n.toNat / 2 ^ 53 : ℕ) := by
  have hone : (1 : ℚ) ≤ n.toNat := by exact_mod_cast h
  have hword : (n.toNat : ℚ) < 2 ^ 64 := by exact_mod_cast n.toNat_lt
  obtain ⟨m, e, hnormal, hrounds⟩ :=
    (roundedFrom_toFloat h).normal hone (lt_overflow hword (by decide))
  exact ⟨_, hnormal, fun hsmall => hrounds.eq_of_dvd (k := 0) hsmall (one_dvd _), hrounds.le_add⟩

/-- A product below the bound does not overflow. -/
theorem isInf_mul_eq_false {x y : Float} {p q : ℚ} (hx : Normal x p) (hy : Normal y q)
    (h : p * q < overflow) : (x * y).isInf = false := by
  have hone : 1 ≤ p * q := one_le_mul_of_one_le_of_one_le hx.one_le hy.one_le
  exact (roundedFrom_mul hx hy).isInf_eq_false
    ((zpow_le_one_of_nonpos₀ (by norm_num) (by norm_num)).trans hone) h

end EntityQuery
