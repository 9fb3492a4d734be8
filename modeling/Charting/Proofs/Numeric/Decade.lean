import Mathlib.Algebra.Order.Field.Power
import Mathlib.Tactic.Linarith
import Mathlib.Tactic.Positivity
import Charting.Numeric.Exact

/-!
# Powers of ten

Every positive rational lies in one decade, from a power of ten up to the next one
(`Exact.decade_bounds`), and the decade is told by these bounds (`zpow_ten_inj`).
-/

namespace Charting

theorem tenPow_eq (n : Nat) : tenPow n = 10 ^ n := rfl

/-- A number has as many digits as its size asks for. -/
theorem digitCount_bounds {n : Nat} (hn : 0 < n) :
    10 ^ (digitCount n - 1) ≤ n ∧ n < 10 ^ (digitCount n - 1 + 1) := by
  have hpos : 0 < digitCount n := List.length_pos_iff.mpr Nat.toDigits_ne_nil
  have hdigits (k : Nat) (hk : 0 < k) : digitCount n ≤ k ↔ n < 10 ^ k :=
    Nat.length_toDigits_le_iff (by decide) hk
  constructor
  · rcases Nat.eq_zero_or_pos (digitCount n - 1) with hone | hmore
    · rw [hone]
      exact hn
    · exact Nat.not_lt.mp fun hlt ↦ by have := (hdigits _ hmore).mpr hlt; omega
  · exact (hdigits _ (Nat.succ_pos _)).mp (by omega)

/-- Powers of ten are told apart by the decades that they begin. -/
theorem zpow_ten_inj {x : ℚ} {p q : ℤ} (hp : 10 ^ p ≤ x) (hp' : x < 10 ^ (p + 1))
    (hq : 10 ^ q ≤ x) (hq' : x < 10 ^ (q + 1)) : p = q := by
  have hpq : p < q + 1 := (zpow_lt_zpow_iff_right₀ (by norm_num : (1 : ℚ) < 10)).mp (hp.trans_lt hq')
  have hqp : q < p + 1 := (zpow_lt_zpow_iff_right₀ (by norm_num : (1 : ℚ) < 10)).mp (hq.trans_lt hp')
  omega

namespace Exact

theorem pow10_eq (n : Nat) : (Scalar.pow10 n : ℚ) = 10 ^ n := by
  have h : (Scalar.pow10 n : ℚ) = ((1 * 10 ^ n : Nat) : ℚ) := Rat.ofScientific_false_def
  rw [h, one_mul, Nat.cast_pow, Nat.cast_ofNat]

/-- A quotient of at least one lies in the decade of its whole part. -/
theorem decade_bounds_of_le {num den : Nat} (hden : 0 < den) (hle : den ≤ num) :
    (10 : ℚ) ^ decade num den * den ≤ num ∧ (num : ℚ) < 10 ^ (decade num den + 1) * den := by
  obtain ⟨hlower, hupper⟩ := digitCount_bounds (Nat.div_pos hle hden)
  rw [Nat.le_div_iff_mul_le hden] at hlower
  rw [Nat.div_lt_iff_lt_mul hden] at hupper
  rw [decade, if_pos hle, zpow_natCast, ← Nat.cast_succ, zpow_natCast]
  exact ⟨by exact_mod_cast hlower, by exact_mod_cast hupper⟩

/-- A quotient below one lies in the decade of its inverse, or one before it. -/
theorem decade_bounds_of_lt {num den : Nat} (hnum : 0 < num) (hlt : num < den) :
    (10 : ℚ) ^ decade num den * den ≤ num ∧ (num : ℚ) < 10 ^ (decade num den + 1) * den := by
  obtain ⟨hlower, hupper⟩ := digitCount_bounds (Nat.div_pos hlt.le hnum)
  rw [Nat.le_div_iff_mul_le hnum] at hlower
  rw [Nat.div_lt_iff_lt_mul hnum] at hupper
  rw [decade, if_neg (Nat.not_le.mpr hlt)]
  generalize digitCount (den / num) - 1 = k at *
  have hlower' : (10 : ℚ) ^ k * num ≤ den := by exact_mod_cast hlower
  have hupper' : (den : ℚ) < 10 ^ (k + 1) * num := by exact_mod_cast hupper
  have hpow : (10 : ℚ) ^ (-(k : ℤ)) = (10 ^ k)⁻¹ := by rw [zpow_neg, zpow_natCast]
  have hpow' : (10 : ℚ) ^ (-(k : ℤ) - 1) = (10 ^ (k + 1))⁻¹ := by
    rw [← neg_add', ← Nat.cast_succ, zpow_neg, zpow_natCast]
  have hpos : (0 : ℚ) < 10 ^ k := by positivity
  have hpos' : (0 : ℚ) < 10 ^ (k + 1) := by positivity
  dsimp only
  -- an exact power of ten begins its decade, and what is not one lies a decade further down
  split
  case isTrue hexact =>
    have hexact' : (den : ℚ) ≤ num * 10 ^ k := by exact_mod_cast hexact
    rw [zpow_add_one₀ (by norm_num), hpow]
    have hden : (10 ^ k : ℚ)⁻¹ * den = num := by
      rw [inv_mul_eq_iff_eq_mul₀ hpos.ne']
      linarith
    have hnum' : (0 : ℚ) < num := by exact_mod_cast hnum
    exact ⟨hden.le, by linarith [mul_right_comm ((10 ^ k : ℚ)⁻¹) 10 den]⟩
  case isFalse hexact =>
    have hexact' : (num * 10 ^ k : ℚ) < den := by exact_mod_cast Nat.not_le.mp hexact
    rw [sub_add_cancel, hpow, hpow', inv_mul_le_iff₀ hpos', lt_inv_mul_iff₀ hpos]
    exact ⟨hupper'.le, by linarith⟩

/-- A positive number lies in its decade. -/
theorem decade_bounds {x : ℚ} (hx : 0 < x) :
    (10 : ℚ) ^ Scalar.decade x ≤ x ∧ x < 10 ^ (Scalar.decade x + 1) := by
  have hnum : 0 < x.num.natAbs := Int.natAbs_pos.mpr (Rat.num_pos.mpr hx).ne'
  have hden : (0 : ℚ) < x.den := by exact_mod_cast x.den_pos
  have hx' : x = x.num.natAbs / x.den := by
    rw [Nat.cast_natAbs, abs_of_pos (Rat.num_pos.mpr hx), Rat.num_div_den]
  have hbounds : (10 : ℚ) ^ Scalar.decade x * x.den ≤ x.num.natAbs ∧
      (x.num.natAbs : ℚ) < 10 ^ (Scalar.decade x + 1) * x.den := by
    rcases Nat.lt_or_ge x.num.natAbs x.den with hlt | hle
    · exact decade_bounds_of_lt hnum hlt
    · exact decade_bounds_of_le x.den_pos hle
  conv_lhs => rhs; rw [hx']
  conv_rhs => lhs; rw [hx']
  rw [le_div_iff₀ hden, div_lt_iff₀ hden]
  exact hbounds

end Exact

end Charting
