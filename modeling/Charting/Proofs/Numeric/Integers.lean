import Mathlib.Data.Rat.Floor
import Mathlib.Tactic.Linarith
import Charting.Proofs.Numeric.Laws

/-!
# Integers among the numbers

Integers of at most fifty-three binary digits are numbers themselves: they keep their order and come
back unchanged.  The quotient of two integers comes back without its fraction, exactly as long as
the dividend is small, and with a relative error otherwise.
-/

namespace Charting

/-- Numbers that the smaller integers belong to. -/
class LawfulIntegers (R : Type) [Scalar R] : Prop where
  /-- Integers are in their own order. -/
  ofInt_le_ofInt_iff {a b : Int} : |a| ≤ 2 ^ 53 → |b| ≤ 2 ^ 53 →
    ((Scalar.ofInt a : R) ≤ Scalar.ofInt b ↔ a ≤ b)
  /-- Integers are finite. -/
  isFinite_ofInt {a : Int} : |a| ≤ 2 ^ 53 → Scalar.isFinite (Scalar.ofInt a : R) = true
  /-- Nothing is cut off an integer. -/
  toInt64_ofInt {a : Int} : |a| ≤ 2 ^ 53 → Scalar.toInt64 (Scalar.ofInt a : R) = a

/-- Quotients by an integer, toward zero: a dividend below `2 ^ 48` has its exact quotient, and a
greater one that of a dividend nearby. -/
structure IsQuotient (c : Int) (q : Int → Int) : Prop where
  /-- The divisor is positive. -/
  pos : 0 < c
  /-- A greater dividend has no smaller quotient. -/
  mono {a b : Int} : 0 ≤ a → a ≤ b → b ≤ 2 ^ 54 → q a ≤ q b
  /-- The quotient is not too great. -/
  mul_le {a : Int} : 0 ≤ a → a ≤ 2 ^ 54 → q a * c ≤ a + a / 2 ^ 48
  /-- The quotient is not too small. -/
  lt_mul {a : Int} : 0 ≤ a → a ≤ 2 ^ 54 → a < (q a + 1) * c + a / 2 ^ 48

namespace IsQuotient

variable {c : Int} {q q' : Int → Int}

theorem congr (hq : IsQuotient c q) (h : ∀ a, 0 ≤ a → a ≤ 2 ^ 54 → q' a = q a) :
    IsQuotient c q' where
  pos := hq.pos
  mono {a b} ha hab hb := by
    rw [h a ha (hab.trans hb), h b (ha.trans hab) hb]
    exact hq.mono ha hab hb
  mul_le {a} ha ha' := by
    rw [h a ha ha']
    exact hq.mul_le ha ha'
  lt_mul {a} ha ha' := by
    rw [h a ha ha']
    exact hq.lt_mul ha ha'

/-- The quotient of integers. -/
theorem ediv (hc : 0 < c) : IsQuotient c (· / c) where
  pos := hc
  mono _ hab _ := Int.ediv_le_ediv hc hab
  mul_le {a} _ _ := by
    have := Int.ediv_mul_le a hc.ne'
    omega
  lt_mul {a} _ _ := by
    have := Int.lt_ediv_add_one_mul_self a hc
    omega

/-- A divisor can be so great that nothing is left. -/
theorem zero (hc : 2 ^ 54 < c) : IsQuotient c fun _ ↦ 0 where
  pos := by omega
  mono _ _ _ := le_rfl
  mul_le _ _ := by omega
  lt_mul _ _ := by omega

end IsQuotient

/-- Numbers that can be divided, but for rounding. -/
class LawfulQuotients (R : Type) [Scalar R] : Prop extends LawfulIntegers R where
  /-- Integers have a quotient. -/
  isQuotient {n : Nat} : 1 ≤ n →
    IsQuotient n fun a ↦ Scalar.toInt64 (Scalar.ofInt a / Scalar.ofNat n : R)

/-! ## Rationals -/

theorem toInt64_intCast {t : Int} (ht : |t| ≤ 2 ^ 53) : Scalar.toInt64 (t : ℚ) = t := by
  have htruncate : Scalar.toInt64 (t : ℚ) = clampInt64 (truncate (t : ℚ)) := rfl
  obtain ⟨hlower, hupper⟩ := abs_le.mp ht
  have hcut : truncate (t : ℚ) = t := by simp [truncate]
  rw [htruncate, hcut, clampInt64, minInt64, maxInt64]
  split_ifs <;> omega

theorem truncate_of_nonneg {x : ℚ} (hx : 0 ≤ x) : truncate x = ⌊x⌋ := by
  rw [truncate, Int.tdiv_eq_ediv_of_nonneg (Rat.num_nonneg.mpr hx), Rat.floor_def']

/-- Without rounding every quotient is exact. -/
theorem toInt64_div {a : Int} (ha : 0 ≤ a) (ha' : a ≤ 2 ^ 54) (n : Nat) :
    Scalar.toInt64 (Scalar.ofInt a / Scalar.ofNat n : ℚ) = a / n := by
  have htruncate : Scalar.toInt64 (Scalar.ofInt a / Scalar.ofNat n : ℚ) =
      clampInt64 (truncate ((a : ℚ) / (n : ℚ))) := rfl
  have hnonneg : 0 ≤ a / (n : Int) := Int.ediv_nonneg ha (Int.natCast_nonneg n)
  have hle : a / (n : Int) ≤ a := Int.ediv_le_self _ ha
  have hcast : (0 : ℚ) ≤ (a : ℚ) / (n : ℚ) :=
    div_nonneg (by exact_mod_cast ha) (Nat.cast_nonneg n)
  rw [htruncate, truncate_of_nonneg hcast, Rat.floor_intCast_div_natCast, clampInt64, minInt64,
    maxInt64]
  split_ifs <;> omega

instance : LawfulQuotients ℚ where
  ofInt_le_ofInt_iff _ _ := Int.cast_le
  isFinite_ofInt _ := rfl
  toInt64_ofInt := toInt64_intCast
  isQuotient {n} hn :=
    (IsQuotient.ediv (by exact_mod_cast hn)).congr fun _ ha ha' ↦ toInt64_div ha ha' n

end Charting
