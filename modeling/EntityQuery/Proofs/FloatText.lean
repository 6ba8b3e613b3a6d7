import EntityQuery.Json.Form
import EntityQuery.Proofs.Forms

/-!
# The text of a float

Every finite float is written as a number that can be read (`Layout.writable_numeralOfFloat`). What
comes back is `restored?` of the float, which need not be the float itself.

* `Binary.Covers` is the interval of the numbers that round to a float. `Binary.rounds_iff` says
  that the search decides it on its grid.
* `Binary.pow_leading_le` and `Binary.value_lt_pow_leading` say that the search begins on the grid
  of the first digit, and `Binary.covers_neighbour` that seventeen digits are always enough.
* `Binary.shortest_approximates` says what the search finds: at most seventeen digits, not all zero,
  of a number that rounds to the float.
* `Layout.value_numeral` says that every layout writes the number that was found.
-/

namespace EntityQuery

/-! ## Lengths in decimal -/

/-- A number is less than the power of ten with as many zeros as it has digits. -/
theorem lt_pow_length_toDigits (n : ℕ) : n < 10 ^ (Nat.toDigits 10 n).length :=
  (Nat.length_toDigits_le_iff (by decide) Nat.length_toDigits_pos).mp (Nat.le_refl _)

/-- A number is at least the power of ten with as many digits. -/
theorem pow_length_toDigits_le {n : ℕ} (h : 0 < n) :
    10 ^ ((Nat.toDigits 10 n).length - 1) ≤ n := by
  rcases Nat.eq_zero_or_pos ((Nat.toDigits 10 n).length - 1) with hzero | hpos
  · rw [hzero]
    exact h
  · by_contra hlt
    have := (Nat.length_toDigits_le_iff (by decide) hpos).mpr (Nat.lt_of_not_le hlt)
    omega

/-! ## The search

The search for a short text compares points of a decimal grid with quarters of the last binary
place. It does so in whole numbers, by taking both in units that divide either. Here these
comparisons are turned into comparisons of the numbers themselves. -/

namespace Binary

variable {v : Binary}

/-- The number that a count of quarters of the last binary place stands for. -/
def ofQuarters (v : Binary) (n : ℕ) : ℚ :=
  n / 4 * 2 ^ v.exponent

/-- The number that a magnitude stands for. -/
def value (v : Binary) : ℚ :=
  v.ofQuarters (4 * v.significand)

/-- How many units of the search on a grid make one. -/
def unitsPerOne (v : Binary) (e : ℤ) : ℚ :=
  2 ^ (2 - v.exponent).toNat * 10 ^ (-e).toNat

theorem unitsPerOne_pos (v : Binary) (e : ℤ) : 0 < v.unitsPerOne e := by
  unfold unitsPerOne
  positivity

/-- A power as one with a natural exponent, over another one if the exponent is negative. -/
theorem pow_toNat {b : ℚ} (hb : b ≠ 0) (e : ℤ) : b ^ e.toNat = b ^ e * b ^ (-e).toNat := by
  rw [← zpow_natCast, ← zpow_natCast, ← zpow_add₀ hb]
  congr 1
  omega

/-- A point of the grid, in units of the search. -/
theorem gridPoint_eq (v : Binary) (e : ℤ) (c : ℕ) :
    (v.gridPoint e c : ℚ) = c * 10 ^ e * v.unitsPerOne e := by
  simp only [gridPoint, Nat.pow_eq, Nat.cast_mul, Nat.cast_pow, Nat.cast_ofNat, unitsPerOne]
  rw [pow_toNat (by norm_num) e]
  ring

theorem quarters_eq (v : Binary) (e : ℤ) (n : ℕ) :
    (v.quarters e n : ℚ) = v.ofQuarters n * v.unitsPerOne e := by
  simp only [quarters, Nat.pow_eq, Nat.cast_mul, Nat.cast_pow, Nat.cast_ofNat, unitsPerOne,
    ofQuarters]
  rw [pow_toNat (by norm_num) (v.exponent - 2), neg_sub, zpow_sub₀ (by norm_num)]
  ring

/-- Comparing units compares a point of the grid with quarters. -/
theorem gridPoint_le_quarters_iff {e : ℤ} {c n : ℕ} :
    v.gridPoint e c ≤ v.quarters e n ↔ c * 10 ^ e ≤ v.ofQuarters n := by
  rw [← Nat.cast_le (α := ℚ), gridPoint_eq, quarters_eq]
  exact mul_le_mul_iff_of_pos_right (v.unitsPerOne_pos e)

theorem quarters_le_gridPoint_iff {e : ℤ} {c n : ℕ} :
    v.quarters e n ≤ v.gridPoint e c ↔ v.ofQuarters n ≤ c * 10 ^ e := by
  rw [← Nat.cast_le (α := ℚ), gridPoint_eq, quarters_eq]
  exact mul_le_mul_iff_of_pos_right (v.unitsPerOne_pos e)

/-! ### The first digit

The search begins on the grid of the first digit of the float, whose place is found by counting the
digits of a quotient. -/

/-- The power of ten of the first digit of a quotient. -/
def quotientLeading (num den : ℕ) : ℤ :=
  if den ≤ num then (Nat.toDigits 10 (num / den)).length - 1
  else -(Nat.toDigits 10 ((den - 1) / num)).length

/-- The first digit of a quotient is not behind the place that is found. -/
theorem pow_quotientLeading_le {num den : ℕ} (hnum : 0 < num) (hden : 0 < den) :
    (10 : ℚ) ^ quotientLeading num den * den ≤ num := by
  rw [quotientLeading]
  -- a quotient of one or more has digits before the point, and a smaller one zeros behind it
  split
  · rename_i hle
    have hlength := pow_length_toDigits_le (Nat.div_pos hle hden)
    have hmul := (Nat.le_div_iff_mul_le hden).mp hlength
    rw [← Nat.cast_pred Nat.length_toDigits_pos, zpow_natCast]
    exact_mod_cast hmul
  · have hlength := lt_pow_length_toDigits ((den - 1) / num)
    have hmul := (Nat.div_lt_iff_lt_mul hnum).mp hlength
    rw [zpow_neg, zpow_natCast, inv_mul_le_iff₀ (by positivity)]
    exact_mod_cast (by omega : den ≤ 10 ^ (Nat.toDigits 10 ((den - 1) / num)).length * num)

/-- The first digit of a quotient is not before the place that is found. -/
theorem lt_pow_quotientLeading {num den : ℕ} (hnum : 0 < num) (hden : 0 < den) :
    (num : ℚ) < 10 ^ (quotientLeading num den + 1) * den := by
  rw [quotientLeading]
  split
  · have hlength := lt_pow_length_toDigits (num / den)
    have hmul := (Nat.div_lt_iff_lt_mul hden).mp hlength
    rw [sub_add_cancel, zpow_natCast]
    exact_mod_cast hmul
  · rename_i hlt
    have hmul : 10 ^ ((Nat.toDigits 10 ((den - 1) / num)).length - 1) * num < den := by
      rcases Nat.eq_zero_or_pos ((den - 1) / num) with hzero | hpos
      · simpa [hzero] using hlt
      · have := (Nat.le_div_iff_mul_le hnum).mp (pow_length_toDigits_le hpos)
        omega
    have hexponent : -((Nat.toDigits 10 ((den - 1) / num)).length : ℤ) + 1 =
        -(((Nat.toDigits 10 ((den - 1) / num)).length - 1 : ℕ) : ℤ) := by
      rw [Nat.cast_pred Nat.length_toDigits_pos]
      ring
    rw [hexponent, zpow_neg, zpow_natCast, lt_inv_mul_iff₀ (by positivity)]
    exact_mod_cast hmul

/-- The value as the quotient whose digits are counted. -/
theorem value_mul_den (v : Binary) :
    v.value * (2 ^ (-v.exponent).toNat : ℕ) = (v.significand * 2 ^ v.exponent.toNat : ℕ) := by
  rw [value, ofQuarters]
  push_cast
  rw [pow_toNat (by norm_num) v.exponent]
  ring

theorem leading_eq (v : Binary) :
    v.leading = quotientLeading (v.significand * 2 ^ v.exponent.toNat) (2 ^ (-v.exponent).toNat) :=
  rfl

/-- The magnitude is at least the power of ten of its first digit. -/
theorem pow_leading_le (h : 0 < v.significand) : 10 ^ v.leading ≤ v.value := by
  have hden : (0 : ℚ) < (2 ^ (-v.exponent).toNat : ℕ) := by positivity
  rw [← mul_le_mul_iff_of_pos_right hden, value_mul_den, leading_eq]
  exact pow_quotientLeading_le (by positivity) (by positivity)

theorem value_lt_pow_leading (h : 0 < v.significand) : v.value < 10 ^ (v.leading + 1) := by
  have hden : (0 : ℚ) < (2 ^ (-v.exponent).toNat : ℕ) := by positivity
  rw [← mul_lt_mul_iff_of_pos_right hden, value_mul_den, leading_eq]
  exact lt_pow_quotientLeading (by positivity) (by positivity)

/-! ### The points found

On a grid only the two neighbours of the float are tried. What is found rounds to the float, and if
nothing is found then neither of them does. -/

/-- Whether a number rounds to the float. The ends of the interval do if the significand is even. -/
def Covers (v : Binary) (q : ℚ) : Prop :=
  let low := v.ofQuarters (4 * v.significand - if v.closerBelow then 1 else 2)
  let high := v.ofQuarters (4 * v.significand + 2)
  if v.significand % 2 = 0 then low ≤ q ∧ q ≤ high else low < q ∧ q < high

/-- The search decides on its grid whether a point rounds to the float. -/
theorem rounds_iff {e : ℤ} {c : ℕ} : v.rounds e c = true ↔ v.Covers (c * 10 ^ e) := by
  have hlt : ∀ n, v.gridPoint e c < v.quarters e n ↔ c * 10 ^ e < v.ofQuarters n := fun n => by
    rw [← not_le, quarters_le_gridPoint_iff, not_le]
  have hgt : ∀ n, v.quarters e n < v.gridPoint e c ↔ v.ofQuarters n < c * 10 ^ e := fun n => by
    rw [← not_le, gridPoint_le_quarters_iff, not_le]
  simp only [rounds, Covers]
  split <;> simp only [Bool.and_eq_true, decide_eq_true_eq, gridPoint_le_quarters_iff,
    quarters_le_gridPoint_iff, hlt, hgt]

namespace Covers

variable {q : ℚ}

/-- What rounds to the float lies between the ends of its interval. -/
theorem bounds (h : v.Covers q) :
    v.ofQuarters (4 * v.significand - if v.closerBelow then 1 else 2) ≤ q ∧
      q ≤ v.ofQuarters (4 * v.significand + 2) := by
  simp only [Covers] at h
  split at h
  · exact h
  · exact ⟨h.1.le, h.2.le⟩

/-- What lies strictly between the ends rounds to the float. -/
theorem of_lt (hlow : v.ofQuarters (4 * v.significand - if v.closerBelow then 1 else 2) < q)
    (hhigh : q < v.ofQuarters (4 * v.significand + 2)) : v.Covers q := by
  simp only [Covers]
  split
  · exact ⟨hlow.le, hhigh.le⟩
  · exact ⟨hlow, hhigh⟩

/-- Zero rounds to no float but zero. -/
theorem pos (h : v.Covers q) (hv : 0 < v.significand) : 0 < q := by
  have hlow : 0 < 4 * v.significand - if v.closerBelow then 1 else 2 := by split <;> omega
  refine lt_of_lt_of_le ?_ h.bounds.1
  rw [ofQuarters]
  positivity

end Covers

/-- What is found is one of the two neighbours, and rounds to the float. -/
theorem rounds_of_nearest? {tie : Tie} {e : ℤ} {c : ℕ} (h : v.nearest? tie e = some c) :
    v.rounds e c = true ∧ c ≤ v.quarters e (4 * v.significand) / v.gridPoint e 1 + 1 := by
  simp only [nearest?] at h
  grind

/-- If nothing is found, neither of the neighbours rounds to the float. -/
theorem rounds_of_nearest?_eq_none {tie : Tie} {e : ℤ} (h : v.nearest? tie e = none) :
    v.rounds e (v.quarters e (4 * v.significand) / v.gridPoint e 1) = false ∧
      v.rounds e (v.quarters e (4 * v.significand) / v.gridPoint e 1 + 1) = false := by
  simp only [nearest?] at h
  grind

theorem gridPoint_mul (v : Binary) (e : ℤ) (c : ℕ) :
    v.gridPoint e c = c * v.gridPoint e 1 := by
  simp only [gridPoint, Nat.one_mul, Nat.mul_assoc]

theorem gridPoint_one_pos (v : Binary) (e : ℤ) : 0 < v.gridPoint e 1 := by
  rw [gridPoint, Nat.one_mul]
  exact Nat.mul_pos (Nat.pow_pos (by decide)) (Nat.pow_pos (by decide))

/-- The point below the float on the grid on which the float has `n + 1` digits. -/
def below (v : Binary) (n : ℕ) : ℕ :=
  v.quarters (v.leading - n) (4 * v.significand) / v.gridPoint (v.leading - n) 1

/-- The neighbour below has no more digits than the grid has places. -/
theorem below_lt (h : 0 < v.significand) (n : ℕ) : v.below n < 10 ^ (n + 1) := by
  have hpow : (10 : ℚ) ^ (v.leading + 1) = (10 ^ (n + 1) : ℕ) * 10 ^ (v.leading - n) := by
    rw [Nat.cast_pow, ← zpow_natCast, Nat.cast_ofNat, ← zpow_add₀ (by norm_num)]
    congr 1
    omega
  rw [below, Nat.div_lt_iff_lt_mul (v.gridPoint_one_pos _), ← gridPoint_mul, ← not_le,
    gridPoint_le_quarters_iff, not_le, ← hpow]
  exact value_lt_pow_leading h

theorem below_le (v : Binary) (n : ℕ) : v.below n * 10 ^ (v.leading - n) ≤ v.value := by
  refine gridPoint_le_quarters_iff.mp ?_
  rw [gridPoint_mul]
  exact Nat.div_mul_le_self _ _

theorem lt_below_succ (v : Binary) (n : ℕ) :
    v.value < (v.below n + 1 : ℕ) * 10 ^ (v.leading - n) := by
  rw [← not_le, value, ← gridPoint_le_quarters_iff, not_le, gridPoint_mul,
    Nat.mul_comm (v.below n + 1)]
  exact Nat.lt_mul_div_succ _ (v.gridPoint_one_pos _)

/-! ### Seventeen digits

With seventeen digits the grid is finer than half a binary place, so one of the neighbours rounds to
the float. Below a power of two the floats are twice as close, but then the neighbour above is near
enough. -/

theorem ofBits_subnormal {bits : UInt64} (h : bits.toNat / 2 ^ 52 % 2 ^ 11 = 0) :
    ofBits bits = ⟨bits.toNat % 2 ^ 52, -1074, false⟩ :=
  if_pos h

theorem ofBits_normal {bits : UInt64} (h : bits.toNat / 2 ^ 52 % 2 ^ 11 ≠ 0) :
    ofBits bits = ⟨2 ^ 52 + bits.toNat % 2 ^ 52, (bits.toNat / 2 ^ 52 % 2 ^ 11 : ℕ) - 1075,
      bits.toNat % 2 ^ 52 = 0 && 1 < bits.toNat / 2 ^ 52 % 2 ^ 11⟩ :=
  if_neg h

/-- The magnitude of a float has up to 53 bits, and the float below it is nearer than the one above
only at a power of two. -/
structure Fits (v : Binary) : Prop where
  significand_lt : v.significand < 2 ^ 53
  of_closerBelow : v.closerBelow = true → v.significand = 2 ^ 52

/-- The magnitude that bits write is that of a float. -/
theorem fits_ofBits (bits : UInt64) : (ofBits bits).Fits := by
  have hfraction : bits.toNat % 2 ^ 52 < 2 ^ 52 := Nat.mod_lt _ (by decide)
  by_cases hscale : bits.toNat / 2 ^ 52 % 2 ^ 11 = 0
  · rw [ofBits_subnormal hscale]
    exact ⟨hfraction.trans (by decide), fun h => nomatch h⟩
  · rw [ofBits_normal hscale]
    refine ⟨by simp only; omega, fun h => ?_⟩
    have hzero := of_decide_eq_true (Bool.and_eq_true_iff.mp h).1
    simp only [hzero, Nat.add_zero]

theorem value_eq (v : Binary) : v.value = v.significand * 2 ^ v.exponent := by
  rw [value, ofQuarters]
  push_cast
  ring

theorem ofQuarters_add (v : Binary) (n : ℕ) :
    v.ofQuarters (4 * v.significand + n) = v.value + n / 4 * 2 ^ v.exponent := by
  rw [value, ofQuarters, ofQuarters]
  push_cast
  ring

theorem ofQuarters_sub {n : ℕ} (h : n ≤ 4 * v.significand) :
    v.ofQuarters (4 * v.significand - n) = v.value - n / 4 * 2 ^ v.exponent := by
  rw [value, ofQuarters, ofQuarters, Nat.cast_sub h]
  ring

/-- What is above the float by less than half a place rounds to it. -/
theorem covers_above {q : ℚ} (h : 0 < v.significand) (hle : v.value ≤ q)
    (hlt : q < v.value + 2 ^ v.exponent / 2) : v.Covers q := by
  have hplace : (0 : ℚ) < 2 ^ v.exponent := by positivity
  refine .of_lt ?_ ?_
  · split <;> rw [ofQuarters_sub (by omega)] <;> push_cast <;> linarith
  · rw [ofQuarters_add]
    push_cast
    linarith

/-- What is below the float by less than half a place rounds to it, if the float below is as far as
the one above. -/
theorem covers_below {q : ℚ} (h : 0 < v.significand) (hcloser : v.closerBelow = false)
    (hlt : v.value - 2 ^ v.exponent / 2 < q) (hle : q ≤ v.value) : v.Covers q := by
  have hplace : (0 : ℚ) < 2 ^ v.exponent := by positivity
  refine .of_lt ?_ ?_
  · rw [hcloser, if_neg Bool.false_ne_true, ofQuarters_sub (by omega)]
    push_cast
    linarith
  · rw [ofQuarters_add]
    push_cast
    linarith

/-- Of the two neighbours with seventeen digits one rounds to the float. -/
theorem covers_neighbour (hv : v.Fits) (h : 0 < v.significand) :
    v.Covers (v.below 16 * 10 ^ (v.leading - (16 : ℕ))) ∨
      v.Covers ((v.below 16 + 1 : ℕ) * 10 ^ (v.leading - (16 : ℕ))) := by
  have hbelow := v.below_le 16
  have habove := v.lt_below_succ 16
  -- seventeen digits: the grid is finer than the magnitude by sixteen powers of ten
  have hunit : 10 ^ (v.leading - (16 : ℕ)) * 10 ^ 16 ≤ v.value := by
    rw [← zpow_natCast, ← zpow_add₀ (by norm_num), sub_add_cancel]
    exact pow_leading_le h
  have hvalue := v.value_eq
  push_cast at habove hunit hbelow ⊢
  generalize (10 : ℚ) ^ (v.leading - 16) = g at *
  cases hcloser : v.closerBelow with
  | true =>
    -- below a power of two the interval is narrow, but the neighbour above is near enough
    have hplace : (0 : ℚ) < 2 ^ v.exponent := by positivity
    rw [hv.of_closerBelow hcloser] at hvalue
    push_cast at hvalue
    exact .inr (covers_above h habove.le (by linarith))
  | false =>
    have hlt : (v.significand : ℚ) < 2 ^ 53 := by exact_mod_cast hv.significand_lt
    have hmul := mul_lt_mul_of_pos_right hlt (show (0 : ℚ) < 2 ^ v.exponent by positivity)
    -- the nearer neighbour is within half of the grid, which is less than half a place
    rcases le_total (v.value - v.below 16 * g) ((v.below 16 + 1) * g - v.value) with hnear | hnear
    · exact .inl (covers_below h hcloser (by linarith) hbelow)
    · exact .inr (covers_above h habove.le (by linarith))

/-- What the search finds: up to seventeen digits, not all zero, of a number that rounds to the
float. -/
structure Approximates (v : Binary) (d : Decimal) : Prop where
  pos : 0 < d.coefficient
  lt : d.coefficient < 10 ^ 17
  covers : v.Covers (d.coefficient * 10 ^ d.exponent)

/-- The search ends with digits of a number that rounds to the float. -/
theorem shortest_approximates (hv : v.Fits) (h : 0 < v.significand) (tie : Tie) :
    v.Approximates (v.shortest tie) := by
  simp only [shortest]
  generalize hfound : List.findSome? _ _ = found
  cases found with
  | none =>
    -- the search finds something with seventeen digits, if not before
    have hnone := List.findSome?_eq_none_iff.mp hfound 16 (by decide)
    obtain ⟨hbelow, habove⟩ := rounds_of_nearest?_eq_none (Option.map_eq_none_iff.mp hnone)
    rcases covers_neighbour hv h with hcovers | hcovers
    · exact absurd (rounds_iff.mpr hcovers) (Bool.eq_false_iff.mp hbelow)
    · exact absurd (rounds_iff.mpr hcovers) (Bool.eq_false_iff.mp habove)
  | some d =>
    obtain ⟨n, hn, hd⟩ := List.exists_of_findSome?_eq_some hfound
    obtain ⟨c, hc, rfl⟩ := Option.map_eq_some_iff.mp hd
    obtain ⟨hrounds, hle⟩ := rounds_of_nearest? hc
    have hcovers := rounds_iff.mp hrounds
    rw [Option.getD_some]
    split
    · -- the carry is the power of ten itself
      rename_i hcarry
      refine ⟨Nat.one_pos, by norm_num, ?_⟩
      rw [hcarry, Nat.pow_eq, Nat.cast_pow, ← zpow_natCast, Nat.cast_ofNat,
        ← zpow_add₀ (by norm_num)] at hcovers
      rw [Nat.cast_one, one_mul]
      convert hcovers using 2
      push_cast
      ring
    · rename_i hcarry
      have hbelow : v.below n < 10 ^ (n + 1) := below_lt h n
      have hpow : 10 ^ (n + 1) ≤ 10 ^ 17 :=
        Nat.pow_le_pow_right (by decide) (by have := List.mem_range.mp hn; omega)
      have hc : c ≤ v.below n + 1 := hle
      have hpos : c ≠ 0 := by
        rintro rfl
        have := hcovers.pos h
        simp at this
      rw [Nat.pow_eq] at hcarry
      have hlt : c < 10 ^ 17 := by omega
      exact ⟨Nat.pos_of_ne_zero hpos, hlt, hcovers⟩

end Binary

/-! ## The layout

Digits and a power of ten are laid out in one of four ways: with zeros behind the digits, with a
point among them, with zeros before them, or with a power of ten written out. Each writes the same
number, as a numeral that can be read. -/

namespace Numeral

/-- All digits of a numeral as one number. -/
def significand (n : Numeral) : ℕ :=
  Nat.ofDigitChars 10 (n.whole ++ n.fraction) 0

/-- The power of ten that the last digit counts. -/
def power (n : Numeral) : ℤ :=
  n.exponent.elim 0 Exponent.value - n.fraction.length

/-- The magnitude that a numeral writes. -/
def value (n : Numeral) : ℚ :=
  n.significand * 10 ^ n.power

/-- Zeros behind the digits make up for the powers of ten that they take away. -/
theorem value_eq_of_zeros {n : Numeral} {c k : ℕ} {e : ℤ} (hs : n.significand = 10 ^ k * c)
    (hp : n.power = e - k) : n.value = c * 10 ^ e := by
  rw [value, hs, hp, zpow_sub₀ (by norm_num), zpow_natCast]
  push_cast
  field_simp

end Numeral

namespace Layout

/-- Digits without a zero in front can be written as a whole number. -/
theorem writable_wholeNumber (l : Layout) (negative : Bool) {digits : List Char}
    (hdigits : ∀ c ∈ digits, c.isDigit = true) (hne : digits ≠ [])
    (hzero : digits.head? = some '0' → digits.length = 1) :
    (l.wholeNumber negative digits).Writable where
  whole := hdigits
  whole_ne_nil := hne
  noLeadingZero := hzero
  fraction := by
    rw [wholeNumber]
    cases l.keepsPoint <;> simp
  exponent := by simp [wholeNumber]

theorem isDigit_of_mem_replicate {n : ℕ} {c : Char} (h : c ∈ List.replicate n '0') :
    c.isDigit = true := by
  rw [List.eq_of_mem_replicate h]
  decide

/-- However the digits of a number are laid out, no zero gets in front of them but one before the
point. -/
theorem writable_numeral (l : Layout) (negative : Bool) {d : Decimal} (h : 0 < d.coefficient) :
    (l.numeral negative d).Writable := by
  have hdigits : ∀ c ∈ Nat.toDigits 10 d.coefficient, c.isDigit = true := fun _ hc =>
    Nat.isDigit_of_mem_toDigits (by decide) (by decide) hc
  have hhead : (Nat.toDigits 10 d.coefficient).head? ≠ some '0' := fun hzero =>
    absurd (Numeral.eq_zero_of_head?_toDigits hzero) (Nat.pos_iff_ne_zero.mp h)
  obtain ⟨first, rest, hcons⟩ := List.exists_cons_of_ne_nil
    (Nat.toDigits_ne_nil (b := 10) (n := d.coefficient))
  simp only [numeral]
  rw [hcons] at hdigits hhead ⊢
  split_ifs
  · -- zeros behind the digits
    refine writable_wholeNumber l negative ?_ (by simp) (fun hzero => absurd hzero hhead)
    exact List.forall_mem_append.mpr ⟨hdigits, fun _ => isDigit_of_mem_replicate⟩
  · -- a point among the digits
    exact {
      whole := fun c hc => hdigits c (List.mem_of_mem_take hc)
      whole_ne_nil := by simp
      noLeadingZero := fun hzero => absurd hzero hhead
      fraction := fun c hc => hdigits c (List.mem_of_mem_drop hc)
      exponent := by simp }
  · -- a single zero before the point
    exact {
      whole := List.forall_mem_singleton.mpr rfl
      whole_ne_nil := by simp
      noLeadingZero := fun _ => rfl
      fraction := List.forall_mem_append.mpr ⟨fun _ => isDigit_of_mem_replicate, hdigits⟩
      exponent := by simp }
  · exact {
      whole := fun c hc => hdigits c (List.mem_of_mem_take hc)
      whole_ne_nil := by simp
      noLeadingZero := fun _ => rfl
      fraction := fun c hc => hdigits c (List.mem_of_mem_drop hc)
      exponent := by
        rintro e ⟨⟩
        exact ⟨Nat.toDigits_ne_nil, fun _ hc =>
          Nat.isDigit_of_mem_toDigits (by decide) (by decide) hc⟩ }

theorem exponent_value (n : ℤ) :
    (⟨n < 0, Nat.toDigits 10 n.natAbs⟩ : Exponent).value = n := by
  simp only [Exponent.value, Nat.ofDigitChars_ten_toDigits, decide_eq_true_eq]
  split <;> omega

theorem negative_numeral (l : Layout) (negative : Bool) (d : Decimal) :
    (l.numeral negative d).negative = negative := by
  simp only [numeral]
  split_ifs <;> rfl

/-- However the digits of a number are laid out, they write the same number. -/
theorem value_numeral (l : Layout) (negative : Bool) (d : Decimal) :
    (l.numeral negative d).value = d.coefficient * 10 ^ d.exponent := by
  have hpos : 0 < (Nat.toDigits 10 d.coefficient).length := Nat.length_toDigits_pos
  have hdigits : ∀ n, Nat.ofDigitChars 10 ((Nat.toDigits 10 d.coefficient).take n ++
      (Nat.toDigits 10 d.coefficient).drop n) 0 = 10 ^ 0 * d.coefficient := fun n => by
    rw [List.take_append_drop, Nat.ofDigitChars_ten_toDigits, Nat.pow_zero, Nat.one_mul]
  -- by the four layouts; the digits are the same in each, and the zeros make up for the power
  simp only [numeral]
  split_ifs with hpositional hexponent hleading
  · -- zeros behind the digits, and one behind the point if there is one
    obtain ⟨k, hk⟩ := Int.eq_ofNat_of_zero_le hexponent
    refine Numeral.value_eq_of_zeros (k := k + if l.keepsPoint then 1 else 0) ?_ ?_
    · have hfraction : (l.wholeNumber negative (Nat.toDigits 10 d.coefficient ++
          List.replicate d.exponent.toNat '0')).fraction =
          List.replicate (if l.keepsPoint then 1 else 0) '0' := by
        rw [wholeNumber]
        cases l.keepsPoint <;> rfl
      rw [Numeral.significand, hfraction]
      simp only [wholeNumber, List.append_assoc, Nat.ofDigitChars_append,
        Nat.ofDigitChars_ten_toDigits, Nat.ofDigitChars_replicate_zero, hk, Int.toNat_natCast,
        Nat.pow_add]
      ring
    · simp only [Numeral.power, wholeNumber, Option.elim_none]
      cases l.keepsPoint <;> simp [hk]
  · -- a point among the digits
    refine Numeral.value_eq_of_zeros (k := 0) (hdigits _) ?_
    simp only [Numeral.power, Option.elim_none, List.length_drop]
    omega
  · -- zeros before the digits
    refine Numeral.value_eq_of_zeros (k := 0) ?_ ?_
    · have hzero : Nat.ofDigitChars 10 ['0'] 0 = 0 := rfl
      simp only [Numeral.significand, Nat.ofDigitChars_append, Nat.ofDigitChars_replicate_zero,
        hzero, Nat.mul_zero, Nat.ofDigitChars_ten_toDigits]
      ring
    · simp only [Numeral.power, Option.elim_none, List.length_append, List.length_replicate]
      omega
  · refine Numeral.value_eq_of_zeros (k := 0) (hdigits _) ?_
    simp only [Numeral.power, Option.elim_some, exponent_value, List.length_drop]
    omega

/-- Every float is written as a number that can be read. -/
theorem writable_numeralOfFloat (l : Layout) (x : Float) : (l.numeralOfFloat x).Writable := by
  simp only [numeralOfFloat]
  split
  · exact writable_wholeNumber l _ (List.forall_mem_singleton.mpr rfl) (by simp) fun _ => rfl
  · rename_i hsignificand
    have hpos := Nat.pos_of_ne_zero hsignificand
    exact writable_numeral l _ (Binary.shortest_approximates (Binary.fits_ofBits _) hpos _).pos

end Layout

/-- The float that a finite float's text is read as. -/
def restored? (x : Float) : Option Float :=
  (Layout.json.numeralOfFloat x).toFloat?

namespace JsonForm

theorem toJson_float {x : Float} (h : x.isFinite = true) :
    toJson x = .number (Layout.json.numeralOfFloat x) :=
  if_pos h

/-- A finite float is read as what its numeral is read as. -/
theorem readsAs_float {room : Nat} {x y : Float} (h : x.isFinite = true)
    (hy : restored? x = some y) : ReadsAs room x y where
  writable := by
    rw [toJson_float h, Json.writable_number_iff]
    exact Layout.writable_numeralOfFloat _ x
  ofJson? := by
    rw [toJson_float h]
    exact hy

end JsonForm

end EntityQuery
