import Mathlib.Algebra.Order.Field.Power
import Mathlib.Tactic.Linarith
import Mathlib.Tactic.Positivity
import Mathlib.Tactic.Ring
import Kite.Number.Numeral

/-!
# Exact values of numbers

Every magnitude is a natural `multiple` of `2 ^ (-1074)`, and rounding this exact value
gives the magnitude back (`ofRatio_multiple`). Infinity counts as the magnitude that
would come after the greatest finite one.
-/

set_option autoImplicit false

namespace Kite.Binary64

/-! ## The logarithm of a ratio -/

theorem scaled_lt_iff (numerator denominator : Nat) (exponent : Int) :
    numerator * Nat.pow 2 (-exponent).toNat < denominator * Nat.pow 2 exponent.toNat ↔
      (numerator : ℚ) < denominator * (2 : ℚ) ^ exponent := by
  rcases le_total 0 exponent with nonneg | nonpos
  · obtain ⟨power, rfl⟩ := Int.eq_ofNat_of_zero_le nonneg
    have none : (-(power : Int)).toNat = 0 := by omega
    rw [none, Int.toNat_natCast, zpow_natCast]
    simp only [Nat.pow_eq, pow_zero, mul_one]
    exact_mod_cast Iff.rfl
  · obtain ⟨power, eq⟩ := Int.eq_ofNat_of_zero_le (neg_nonneg.mpr nonpos)
    obtain rfl : exponent = -(power : Int) := by omega
    have none : (-(power : Int)).toNat = 0 := by omega
    rw [none, neg_neg, Int.toNat_natCast, zpow_neg, zpow_natCast, ← div_eq_mul_inv,
      lt_div_iff₀ (by positivity)]
    simp only [Nat.pow_eq, pow_zero, mul_one]
    exact_mod_cast Iff.rfl

theorem log2_bounds {value : Nat} (nonzero : value ≠ 0) :
    (2 : ℚ) ^ (value.log2 : Int) ≤ value ∧ (value : ℚ) < 2 ^ ((value.log2 : Int) + 1) := by
  have lower := Nat.log2_self_le nonzero
  have upper := Nat.lt_log2_self (n := value)
  constructor
  · rw [zpow_natCast]
    exact_mod_cast lower
  · rw [← Nat.cast_succ, zpow_natCast]
    exact_mod_cast upper

/-- The logarithm is the exponent between whose power of two and the next one the ratio lies. -/
theorem floorLog_eq {numerator denominator : Nat} {exponent : Int} (positive : 0 < denominator)
    (lower : (denominator : ℚ) * 2 ^ exponent ≤ numerator)
    (upper : (numerator : ℚ) < denominator * 2 ^ (exponent + 1)) :
    floorLog numerator denominator = exponent := by
  have positiveRatio : (0 : ℚ) < denominator := by exact_mod_cast positive
  have nonzero : numerator ≠ 0 := by
    rintro rfl
    have scaled : (0 : ℚ) < denominator * 2 ^ exponent := by positivity
    rw [Nat.cast_zero] at lower
    linarith
  obtain ⟨fromNumerator, toNumerator⟩ := log2_bounds nonzero
  obtain ⟨fromDenominator, toDenominator⟩ := log2_bounds positive.ne'
  -- the estimate is the exponent or one more, and the comparison tells which
  have notBelow : exponent ≤ (numerator.log2 : Int) - denominator.log2 := by
    have powers : (2 : ℚ) ^ ((denominator.log2 : Int) + exponent) <
        2 ^ ((numerator.log2 : Int) + 1) := by
      rw [zpow_add₀ two_ne_zero]
      have scaled := mul_le_mul_of_nonneg_right fromDenominator
        (by positivity : (0 : ℚ) ≤ 2 ^ exponent)
      linarith
    have := (zpow_lt_zpow_iff_right₀ one_lt_two).mp powers
    omega
  have notAbove : (numerator.log2 : Int) - denominator.log2 ≤ exponent + 1 := by
    have powers : (2 : ℚ) ^ (numerator.log2 : Int) <
        2 ^ ((denominator.log2 : Int) + 1 + (exponent + 1)) := by
      rw [zpow_add₀ two_ne_zero]
      have scaled := mul_lt_mul_of_pos_right toDenominator
        (by positivity : (0 : ℚ) < 2 ^ (exponent + 1))
      linarith
    have := (zpow_lt_zpow_iff_right₀ one_lt_two).mp powers
    omega
  have cases : (numerator.log2 : Int) - denominator.log2 = exponent ∨
      (numerator.log2 : Int) - denominator.log2 = exponent + 1 := by omega
  rw [floorLog]
  simp only [scaled_lt_iff]
  rcases cases with same | next
  · rw [same, if_neg (not_lt.mpr lower)]
  · rw [next, if_pos upper]
    omega

theorem roundedQuotient_mul (quotient : Nat) {denominator : Nat} (positive : 0 < denominator) :
    roundedQuotient (quotient * denominator) denominator = quotient := by
  rw [roundedQuotient, Nat.mul_div_cancel quotient positive, Nat.mul_mod_left, if_pos]
  left
  omega

/-! ## Exact ratios -/

/-- A ratio that is a natural multiple of the unit of its scale is rounded to that multiple. -/
theorem ofRatio_eq {numerator denominator significand : Nat} {scale : Int}
    (positive : 0 < denominator) (nonzero : numerator ≠ 0)
    (scaled : max (floorLog numerator denominator - 52) (-1074) = scale)
    (exact : numerator * Nat.pow 2 (-scale).toNat =
      significand * (denominator * Nat.pow 2 scale.toNat))
    (finite : (scale + 1074).toNat * Nat.pow 2 52 + significand < 0x7ff0000000000001) :
    ofRatio numerator denominator = ⟨(scale + 1074).toNat * Nat.pow 2 52 + significand, finite⟩ := by
  have unit : 0 < denominator * Nat.pow 2 scale.toNat :=
    Nat.mul_pos positive (Nat.pow_pos (by decide))
  simp only [ofRatio, if_neg nonzero, scaled, exact, roundedQuotient_mul significand unit,
    dif_pos finite]

/-- How many times `2 ^ (-1074)` a magnitude is. Below `2 ^ 53` the patterns count the multiples, and
above the multiples double with the exponent field. -/
def multiple (pattern : Nat) : Nat :=
  if pattern < 2 ^ 53 then pattern
  else (2 ^ 52 + pattern % 2 ^ 52) * 2 ^ (pattern / 2 ^ 52 - 1)

theorem floorLog_multiple {value power factor : Nat} {exponent : Int} (positive : 0 < factor)
    (nonzero : value ≠ 0) (same : exponent = (value.log2 : Int) - power) :
    floorLog (value * factor) (Nat.pow 2 power * factor) = exponent := by
  obtain ⟨lower, upper⟩ := log2_bounds nonzero
  have positiveFactor : (0 : ℚ) < factor := by exact_mod_cast positive
  have denominator : 0 < Nat.pow 2 power * factor := Nat.mul_pos (Nat.pow_pos (by decide)) positive
  have split : ∀ above : Int, ((Nat.pow 2 power * factor : Nat) : ℚ) *
      2 ^ ((value.log2 : Int) - power + above) = 2 ^ ((value.log2 : Int) + above) * factor := by
    intro above
    have powers := zpow_add₀ (two_ne_zero : (2 : ℚ) ≠ 0) (power : Int)
      ((value.log2 : Int) - power + above)
    have sum : (power : Int) + ((value.log2 : Int) - power + above) = value.log2 + above := by ring
    rw [sum, zpow_natCast] at powers
    rw [powers]
    simp only [Nat.pow_eq]
    push_cast
    ring
  rw [same]
  apply floorLog_eq denominator
  · have bound := split 0
    rw [add_zero, add_zero] at bound
    rw [bound, Nat.cast_mul]
    exact mul_le_mul_of_nonneg_right lower positiveFactor.le
  · rw [split 1, Nat.cast_mul]
    exact mul_lt_mul_of_pos_right upper positiveFactor

theorem ofRatio_multiple_of_small {pattern power factor : Nat} (unit : power = 1074)
    (positive : 0 < factor) (small : pattern < 2 ^ 53) (bound : pattern < 0x7ff0000000000001) :
    ofRatio (pattern * factor) (Nat.pow 2 power * factor) = ⟨pattern, bound⟩ := by
  by_cases zero : pattern = 0
  · subst zero
    simp [ofRatio]
  have denominator : 0 < Nat.pow 2 power * factor := Nat.mul_pos (Nat.pow_pos (by decide)) positive
  have logarithm : pattern.log2 < 53 := (Nat.log2_lt zero).mpr small
  have scaled : max (floorLog (pattern * factor) (Nat.pow 2 power * factor) - 52) (-1074) =
      -(power : Int) := by
    rw [floorLog_multiple positive zero rfl]
    omega
  have none : (-(power : Int) + 1074).toNat = 0 := by omega
  have exact : pattern * factor * Nat.pow 2 (-(-(power : Int))).toNat =
      pattern * (Nat.pow 2 power * factor * Nat.pow 2 (-(power : Int)).toNat) := by
    have flat : (-(power : Int)).toNat = 0 := by omega
    rw [neg_neg, Int.toNat_natCast, flat]
    simp only [Nat.pow_eq, pow_zero]
    ring
  have nonzero : pattern * factor ≠ 0 := Nat.mul_ne_zero zero positive.ne'
  rw [ofRatio_eq denominator nonzero scaled exact (by rw [none]; simpa using bound)]
  simp [none]

theorem ofRatio_multiple_of_large {pattern power factor : Nat} (unit : power = 1074)
    (positive : 0 < factor) (large : 2 ^ 53 ≤ pattern) (bound : pattern < 0x7ff0000000000001) :
    ofRatio ((2 ^ 52 + pattern % 2 ^ 52) * 2 ^ (pattern / 2 ^ 52 - 1) * factor)
      (Nat.pow 2 power * factor) = ⟨pattern, bound⟩ := by
  generalize exponents : pattern / 2 ^ 52 - 1 = exponent
  generalize significands : 2 ^ 52 + pattern % 2 ^ 52 = significand
  have pieces : exponent * 2 ^ 52 + significand = pattern := by omega
  have normal : 2 ^ 52 ≤ significand ∧ significand < 2 ^ 53 := by omega
  have denominator : 0 < Nat.pow 2 power * factor := Nat.mul_pos (Nat.pow_pos (by decide)) positive
  have power_pos : 0 < 2 ^ exponent := Nat.pow_pos (by decide)
  have nonzero : significand * 2 ^ exponent ≠ 0 := Nat.mul_ne_zero (by omega) power_pos.ne'
  have logarithm : (significand * 2 ^ exponent).log2 = exponent + 52 := by
    rw [Nat.log2_eq_iff nonzero, Nat.add_assoc, Nat.add_comm exponent, Nat.pow_add,
      Nat.add_comm exponent, Nat.pow_add]
    exact ⟨Nat.mul_le_mul_right _ normal.1, Nat.mul_lt_mul_of_pos_right normal.2 power_pos⟩
  have scaled : max (floorLog (significand * 2 ^ exponent * factor) (Nat.pow 2 power * factor) - 52)
      (-1074) = (exponent : Int) - power := by
    rw [floorLog_multiple positive nonzero rfl, logarithm]
    omega
  have field : ((exponent : Int) - power + 1074).toNat = exponent := by omega
  have powers : 2 ^ exponent * 2 ^ (-((exponent : Int) - power)).toNat =
      2 ^ power * 2 ^ ((exponent : Int) - power).toNat := by
    rw [← Nat.pow_add, ← Nat.pow_add]
    congr 1
    omega
  have exact : significand * 2 ^ exponent * factor * Nat.pow 2 (-((exponent : Int) - power)).toNat =
      significand * (Nat.pow 2 power * factor * Nat.pow 2 ((exponent : Int) - power).toNat) := by
    simp only [Nat.pow_eq]
    calc
      _ = significand * factor * (2 ^ exponent * 2 ^ (-((exponent : Int) - power)).toNat) := by ring
      _ = significand * factor * (2 ^ power * 2 ^ ((exponent : Int) - power).toNat) := by rw [powers]
      _ = _ := by ring
  have nonzeroNumerator : significand * 2 ^ exponent * factor ≠ 0 :=
    Nat.mul_ne_zero nonzero positive.ne'
  have whole : ((exponent : Int) - power + 1074).toNat * Nat.pow 2 52 + significand = pattern := by
    rw [field]
    exact pieces
  rw [ofRatio_eq denominator nonzeroNumerator scaled exact (by rw [whole]; exact bound)]
  exact Fin.ext whole

/-- The exact value of a magnitude is rounded to the magnitude itself. -/
theorem ofRatio_multiple {pattern power factor : Nat} (unit : power = 1074)
    (positive : 0 < factor) (bound : pattern < 0x7ff0000000000001) :
    ofRatio (multiple pattern * factor) (Nat.pow 2 power * factor) = ⟨pattern, bound⟩ := by
  rw [multiple]
  split
  next small => exact ofRatio_multiple_of_small unit positive small bound
  next large => exact ofRatio_multiple_of_large unit positive (Nat.not_lt.mp large) bound

end Kite.Binary64
