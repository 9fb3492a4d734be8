import Charting.Proofs.Numeric.DoubleRounding

/-!
# Arithmetic of doubles

Before digits are rounded away there must be enough of them.  A product of a double with one has all
of them, and a quotient is extended until it has them; so integers and quotients become the nearest
double (`isNearest_ofNat`, `isNearest_div`).
-/

namespace Charting

open Float.Model (Format UnpackedFloat totalExponent)
open Float.Model.UnpackedFloat

namespace Double

variable {v w : ℚ} {m n : ℕ} {e : ℤ}

/-! ## Canonical numbers -/

namespace IsCanonical

/-- The last digit that is kept is there. -/
theorem le_unitExponent (h : IsCanonical m e) (hm : 0 < m) : e ≤ unitExponent (m * 2 ^ e) := by
  have hpos : (0 : ℚ) < m := by exact_mod_cast hm
  rw [unitExponent, log_mul_zpow hpos]
  rcases h.full with hleast | hlead
  · omega
  · have hlog : (52 : ℤ) ≤ Int.log 2 (m : ℚ) := by
      rw [← Int.zpow_le_iff_le_log (by norm_num) hpos]
      exact_mod_cast hlead
    omega

/-- Numbers that are not too great have no great exponent. -/
theorem exponent_le (h : IsCanonical m e) (hlt : (m : ℚ) * 2 ^ e < 2 ^ 63) : e ≤ 971 := by
  by_contra hgreat
  have hlead : 2 ^ 52 ≤ m := h.full.resolve_left (by omega)
  have hle : (2 : ℚ) ^ 63 ≤ m * 2 ^ e := by
    calc (2 : ℚ) ^ 63 = 2 ^ 52 * 2 ^ (11 : ℤ) := by norm_num
      _ ≤ (m : ℚ) * 2 ^ e := by
        gcongr
        · exact_mod_cast hlead
        · norm_num
        · omega
  linarith

end IsCanonical

/-! ## Operations -/

theorem toModel_mul (x y : Float) :
    (x * y).toModel = .pack (.mul .binary64 x.toModel.unpack y.toModel.unpack) := rfl

theorem toModel_div (x y : Float) :
    (x / y).toModel = .pack (.div .binary64 x.toModel.unpack y.toModel.unpack) := rfl

/-- The nearest double to a positive number; it is infinite beyond the greatest one. -/
def IsNearest (v : ℚ) (x : UnpackedFloat) : Prop :=
  ∃ k E, IsCanonical k E ∧ (k : ℚ) * 2 ^ E = nearest v ∧
    x = if E ≤ 971 then ofParts .positive k E else .infinity .positive

theorem isNearest_roundWithAccuracy {acc : Accuracy}
    (hm : IsTruncation (.ofMantissaAndAccuracy m acc) w) (hw : 0 < w) (hv : w * 2 ^ e = v)
    (he : e ≤ unitExponent v) :
    IsNearest v (Float.Model.pack (roundWithAccuracy .binary64 .positive m e acc)).unpack := by
  subst hv
  obtain ⟨k, E, hcanonical, hvalue, hround⟩ := roundWithAccuracy_eq (s := .positive) hm hw he
  refine ⟨k, E, hcanonical, hvalue, ?_⟩
  rw [hround]
  exact unpack_pack_ofParts hcanonical

/-- Shifting digits in changes nothing. -/
theorem shiftLeft_mul_zpow (m n : ℕ) (e : ℤ) :
    ((m <<< n : ℕ) : ℚ) * 2 ^ (e - n) = m * 2 ^ e := by
  rw [Nat.shiftLeft_eq, zpow_sub₀ two_ne_zero, zpow_natCast]
  push_cast
  field_simp

theorem isNearest_round (hm : 0 < m) (e : ℤ) :
    IsNearest (m * 2 ^ e)
      (Float.Model.pack (UnpackedFloat.round .binary64 .positive m e)).unpack := by
  have hunit := targetExponent_floor (w := m) (by exact_mod_cast hm) e
  rw [Nat.floor_natCast] at hunit
  rw [UnpackedFloat.round, hunit]
  refine isNearest_roundWithAccuracy (isTruncation_natCast _) ?_ (shiftLeft_mul_zpow _ _ _) ?_
  · rw [Nat.shiftLeft_eq]
    positivity
  · omega

theorem isNearest_mul {m₁ m₂ : ℕ} {e₁ e₂ : ℤ} {h₁ : 0 < m₁} {h₂ : 0 < m₂}
    (hv : (m₁ * m₂ : ℕ) * 2 ^ (e₁ + e₂) = v) (he : e₁ + e₂ ≤ unitExponent v) :
    IsNearest v (Float.Model.pack (UnpackedFloat.mul .binary64 (.finite .positive m₁ e₁ h₁)
      (.finite .positive m₂ e₂ h₂))).unpack :=
  isNearest_roundWithAccuracy (isTruncation_natCast _)
    (by exact_mod_cast Nat.mul_pos h₁ h₂) hv he

/-- A small integer is converted as it is. -/
theorem isNearest_toFloat (hn : 0 < n) (hlt : n < 2 ^ 53) :
    IsNearest n n.toUInt64.toFloat.toModel.unpack := by
  have hbits : (n.toUInt64.toNat : ℤ) = n := by
    exact_mod_cast Nat.mod_eq_of_lt (hlt.trans (by norm_num))
  have hround : UnpackedFloat.ofUInt64 .binary64 n.toUInt64 = .round .binary64 .positive n 0 := by
    rw [UnpackedFloat.ofUInt64, UnpackedFloat.ofNat, UnpackedFloat.ofInt, hbits,
      UnpackedFloat.normalize, compare_gt_iff_gt.mpr (by exact_mod_cast hn)]
    rfl
  have hnearest := isNearest_round hn 0
  rw [zpow_zero, mul_one, ← hround] at hnearest
  exact hnearest

/-- A small integer is multiplied by one. -/
theorem isNearest_ofNat_of_lt (hn : 0 < n) (hlt : n < 2 ^ 53) :
    IsNearest n (n.toUInt64.toFloat *
      getElem Float.exactlyRepresentablePowersOfTen 0 (by decide)).toModel.unpack := by
  obtain ⟨k, E, hcanonical, hvalue, hunpack⟩ := isNearest_toFloat hn hlt
  rw [nearest_natCast hlt.le] at hvalue
  have hone : (getElem Float.exactlyRepresentablePowersOfTen 0 (by decide)).toModel.unpack =
      .finite .positive (2 ^ 52) (-52) (by decide) := rfl
  have hE : E ≤ 971 := hcanonical.exponent_le <| by
    rw [hvalue]
    exact_mod_cast hlt.trans (by norm_num)
  have hk : 0 < k := pos_of_mul_zpow_pos (e := E) <| by
    rw [hvalue]
    exact_mod_cast hn
  rw [toModel_mul, hone, hunpack, if_pos hE, ofParts_of_pos hk]
  refine isNearest_mul ?_ ?_
  · rw [← hvalue, ← sub_eq_add_neg, ← shiftLeft_mul_zpow k 52 E, Nat.shiftLeft_eq]
    rfl
  · have hunit := hcanonical.le_unitExponent hk
    rw [hvalue] at hunit
    omega

/-- Another integer is first shifted. -/
theorem isNearest_ofScientific (hn : 0 < n) :
    IsNearest n (Float.Model.pack (UnpackedFloat.ofScientific .binary64 n 0)).unpack := by
  have hleast : (0 : ℤ) ≤ Int.log 2 (n : ℚ) := by
    rw [Int.log_natCast]
    positivity
  have hshift : UnpackedFloat.ofScientific .binary64 n 0 =
      .mul .binary64 (.finite .positive (n <<< 53) (-53) (by rw [Nat.shiftLeft_eq]; positivity))
        (.finite .positive 1 0 Nat.one_pos) := by
    have hbits : (0 : ℤ) < 2 ^ Format.binary64.exponentBits := by positivity
    rw [UnpackedFloat.ofScientific, dif_neg hn.ne', if_neg (by omega), if_neg (by omega),
      if_pos (by decide)]
    rfl
  rw [hshift]
  refine isNearest_mul ?_ ?_
  · have hzero := shiftLeft_mul_zpow n 53 0
    rw [zpow_zero, mul_one] at hzero
    rw [mul_one]
    exact hzero
  · rw [unitExponent]
    omega

/-- Integers are rounded to the nearest double. -/
theorem isNearest_ofNat (hn : 0 < n) : IsNearest n (Float.ofNat n).toModel.unpack := by
  change IsNearest n (Float.ofScientific n false 0).toModel.unpack
  rw [Float.ofScientific]
  split
  case isTrue hsmall => exact isNearest_ofNat_of_lt hn hsmall.1
  case isFalse => exact isNearest_ofScientific hn

/-- The leading digit of a quotient is where it is expected, or one place behind. -/
theorem le_log_div (hm : 0 < m) (hn : 0 < n) :
    (m.log2 : ℤ) - n.log2 - 1 ≤ Int.log 2 ((m : ℚ) / n) := by
  have hpos : (0 : ℚ) < n := by exact_mod_cast hn
  have hm' : (2 : ℚ) ^ m.log2 ≤ m := by exact_mod_cast Nat.log2_self_le hm.ne'
  have hn' : (n : ℚ) ≤ 2 ^ (n.log2 + 1) := by exact_mod_cast Nat.lt_log2_self.le
  rw [← Int.zpow_le_iff_le_log (by norm_num) (div_pos (by exact_mod_cast hm) hpos),
    le_div_iff₀ hpos]
  push_cast
  calc (2 : ℚ) ^ ((m.log2 : ℤ) - n.log2 - 1) * n
      ≤ 2 ^ ((m.log2 : ℤ) - n.log2 - 1) * 2 ^ (n.log2 + 1) := by gcongr
    _ = 2 ^ m.log2 := by
      rw [← zpow_natCast, ← zpow_natCast, ← zpow_add₀ two_ne_zero]
      push_cast
      congr 1
      ring
    _ ≤ m := hm'

/-- Quotients are rounded to the nearest double. -/
theorem isNearest_div {x y : Float} {m₁ m₂ : ℕ} {e₁ e₂ : ℤ} {h₁ : 0 < m₁} {h₂ : 0 < m₂}
    (hx : x.toModel.unpack = .finite .positive m₁ e₁ h₁)
    (hy : y.toModel.unpack = .finite .positive m₂ e₂ h₂) :
    IsNearest (m₁ * 2 ^ e₁ / (m₂ * 2 ^ e₂)) (x / y).toModel.unpack := by
  have hpos : (0 : ℚ) < m₁ := by exact_mod_cast h₁
  have hpos' : (0 : ℚ) < m₂ := by exact_mod_cast h₂
  have hquotient : (m₁ : ℚ) * 2 ^ e₁ / (m₂ * 2 ^ e₂) = m₁ / m₂ * 2 ^ (e₁ - e₂) := by
    rw [zpow_sub₀ two_ne_zero]
    field_simp
  have htarget : Format.binary64.targetExponent (totalExponent m₁ e₁ - totalExponent m₂ e₂) =
      max (m₁.log2 + e₁ - (m₂.log2 + e₂) - 53) (-1074) := by
    have hbits : (Format.binary64.mantissaBits : Int) = 53 := by decide
    have hleast : Format.binary64.minExponent = -1074 := by decide
    rw [Format.targetExponent, totalExponent, totalExponent, hbits, hleast]
    omega
  have hunit : Format.binary64.targetExponent (totalExponent m₁ e₁ - totalExponent m₂ e₂) ≤
      unitExponent (m₁ * 2 ^ e₁ / (m₂ * 2 ^ e₂)) := by
    have hlog := le_log_div h₁ h₂
    rw [hquotient, unitExponent, log_mul_zpow (div_pos hpos hpos'), htarget]
    omega
  rw [toModel_div, hx, hy]
  refine isNearest_roundWithAccuracy (isTruncation_div _ h₂) ?_ ?_ (min_le_of_right_le hunit)
  · rw [Nat.shiftLeft_eq]
    positivity
  · -- the digits that were shifted in make up for the lesser exponent
    generalize Format.binary64.targetExponent _ = t
    have hshift := shiftLeft_mul_zpow m₁ (e₁ - e₂ - min (e₁ - e₂) t).toNat (e₁ - e₂)
    rw [Int.toNat_of_nonneg (by omega), sub_sub_cancel] at hshift
    rw [hquotient, div_mul_eq_mul_div, div_mul_eq_mul_div, hshift]

end Double

end Charting
