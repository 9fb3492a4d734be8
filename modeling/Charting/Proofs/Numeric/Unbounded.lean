import Mathlib.Data.Rat.Lemmas
import Charting.Numeric.Extended
import Charting.Proofs.Numeric.Laws

/-!
# Numbers without a greatest one

Exact numbers do not overflow: what is computed from finite numbers is finite, and what is not zero
stays apart from it.  This holds of the rationals, all of which are finite, and of the rationals
with infinities and an undefined result.
-/

namespace Charting

/-- Numbers such that what is computed from finite ones is finite, except for quotients by zero. -/
class UnboundedScalar (R : Type) [Scalar R] : Prop extends LawfulScalar R where
  /-- Integers are finite. -/
  isFinite_ofInt (n : Int) : Scalar.isFinite (Scalar.ofInt n : R) = true
  /-- Decimals are finite. -/
  isFinite_ofScientific (digits : Nat) (negative : Bool) (exponent : Nat) :
    Scalar.isFinite (OfScientific.ofScientific digits negative exponent : R) = true
  /-- Sums are finite. -/
  isFinite_add {a b : R} : Scalar.isFinite a = true → Scalar.isFinite b = true →
    Scalar.isFinite (a + b) = true
  /-- Differences are finite. -/
  isFinite_sub {a b : R} : Scalar.isFinite a = true → Scalar.isFinite b = true →
    Scalar.isFinite (a - b) = true
  /-- Products are finite. -/
  isFinite_mul {a b : R} : Scalar.isFinite a = true → Scalar.isFinite b = true →
    Scalar.isFinite (a * b) = true
  /-- Quotients by another number than zero are finite. -/
  isFinite_div {a b : R} : Scalar.isFinite a = true → Scalar.isFinite b = true →
    (b == 0.0) = false → Scalar.isFinite (a / b) = true
  /-- Rounding down goes to a finite number. -/
  isFinite_floor {a : R} : Scalar.isFinite a = true → Scalar.isFinite (Scalar.floor a) = true
  /-- Rounding up goes to a finite number. -/
  isFinite_ceil {a : R} : Scalar.isFinite a = true → Scalar.isFinite (Scalar.ceil a) = true
  /-- Rounding goes to a finite number. -/
  isFinite_round {a : R} : Scalar.isFinite a = true → Scalar.isFinite (Scalar.round a) = true
  /-- A decimal that has digits is not zero. -/
  ofScientific_ne_zero {digits : Nat} (negative : Bool) (exponent : Nat) : digits ≠ 0 →
    ((OfScientific.ofScientific digits negative exponent : R) == 0.0) = false
  /-- A product of finite numbers other than zero is not zero. -/
  mul_ne_zero {a b : R} : Scalar.isFinite a = true → Scalar.isFinite b = true →
    (a == 0.0) = false → (b == 0.0) = false → (a * b == 0.0) = false

/-! ## Rationals -/

namespace Exact

theorem ofScientific_ne_zero {digits : Nat} (negative : Bool) (exponent : Nat)
    (h : digits ≠ 0) : (OfScientific.ofScientific digits negative exponent : ℚ) ≠ 0 := by
  have hdigits : (digits : ℤ) ≠ 0 := Int.natCast_ne_zero.mpr h
  cases negative with
  | true =>
      change Rat.ofScientific digits true exponent ≠ 0
      rw [Rat.ofScientific_true_def, Ne, Rat.mkRat_eq_zero (by positivity)]
      exact hdigits
  | false =>
      change Rat.ofScientific digits false exponent ≠ 0
      rw [Rat.ofScientific_false_def]
      exact_mod_cast Nat.mul_ne_zero h (by positivity)

theorem beq_zero_eq_false_iff {q : ℚ} : (q == 0.0) = false ↔ q ≠ 0 := by
  rw [beq_eq_false_iff_ne, zero_eq]

end Exact

instance : UnboundedScalar ℚ where
  isFinite_ofInt _ := rfl
  isFinite_ofScientific _ _ _ := rfl
  isFinite_add _ _ := rfl
  isFinite_sub _ _ := rfl
  isFinite_mul _ _ := rfl
  isFinite_div _ _ _ := rfl
  isFinite_floor _ := rfl
  isFinite_ceil _ := rfl
  isFinite_round _ := rfl
  ofScientific_ne_zero negative exponent h :=
    Exact.beq_zero_eq_false_iff.mpr (Exact.ofScientific_ne_zero negative exponent h)
  mul_ne_zero _ _ ha hb := by
    rw [Exact.beq_zero_eq_false_iff] at *
    exact mul_ne_zero ha hb

/-! ## Rationals with infinities -/

namespace Extended

variable {a b c : Extended}

theorem le_iff : a ≤ b ↔ ∃ x y, a.rank? = some x ∧ b.rank? = some y ∧ x ≤ y := by
  change isLE a b = true ↔ _
  unfold isLE
  cases a.rank? <;> cases b.rank? <;> simp

theorem le_trans (hab : a ≤ b) (hbc : b ≤ c) : a ≤ c := by
  obtain ⟨x, y, hx, hy, hxy⟩ := le_iff.mp hab
  obtain ⟨y', z, hy', hz, hyz⟩ := le_iff.mp hbc
  obtain rfl := Option.some.inj (hy.symm.trans hy')
  exact le_iff.mpr ⟨x, z, hx, hz, hxy.trans hyz⟩

theorem isNaN_eq : Scalar.isNaN a = a.rank?.isNone := by
  change decide (a = undefined) = _
  rcases a with q | negative | _
  · rfl
  · cases negative <;> rfl
  · rfl

theorem isNaN_eq_false_iff : Scalar.isNaN a = false ↔ ∃ x, a.rank? = some x := by
  rw [isNaN_eq, Option.isNone_eq_false_iff, Option.isSome_iff_exists]

theorem beq_iff : (a == b) = true ↔ a ≤ b ∧ b ≤ a := Bool.and_eq_true_iff

theorem lt_iff : a < b ↔ a ≤ b ∧ ¬b ≤ a :=
  and_congr_right' Bool.eq_false_iff

theorem finite_le_finite_iff {p q : ℚ} : finite p ≤ finite q ↔ p ≤ q := by
  simp [le_iff, rank?]

theorem exists_of_isFinite (h : Scalar.isFinite a = true) : ∃ q, a = finite q := by
  cases a with
  | finite q => exact ⟨q, rfl⟩
  | infinite negative => cases h
  | undefined => cases h

/-- Rationals are divided as such. -/
theorem finite_div_finite (p : ℚ) {q : ℚ} (hq : q ≠ 0) : finite p / finite q = finite (p / q) := by
  change mul (finite p) (inv (finite q)) = _
  rw [inv, if_neg hq, mul, div_eq_mul_inv]

theorem zero_eq : (0.0 : Extended) = finite 0 := congrArg finite Exact.zero_eq

theorem finite_beq_zero_eq_false_iff {q : ℚ} : (finite q == 0.0) = false ↔ q ≠ 0 := by
  rw [← Bool.not_eq_true, beq_iff, zero_eq, finite_le_finite_iff, finite_le_finite_iff,
    ← le_antisymm_iff]

/-- What is not below zero is a rational or an infinity. -/
theorem cases_of_zero_le (h : finite 0 ≤ a) :
    (∃ q, a = finite q ∧ 0 ≤ q) ∨ a = infinite false := by
  rcases a with q | negative | _
  · exact .inl ⟨q, rfl, finite_le_finite_iff.mp h⟩
  · cases negative with
    | false => exact .inr rfl
    | true => exact absurd h (by decide)
  · exact absurd h (by decide)

theorem finite_lt_finite_iff {p q : ℚ} : finite p < finite q ↔ p < q := by
  rw [lt_iff, finite_le_finite_iff, finite_le_finite_iff, lt_iff_le_not_ge]

/-- A sum with a positive number is positive. -/
theorem zero_lt_add (ha : finite 0 ≤ a) (hb : finite 0 < b) : finite 0 < a + b := by
  have hinfinite : finite 0 < infinite false := by decide
  rcases cases_of_zero_le (lt_iff.mp hb).1 with ⟨q, rfl, -⟩ | rfl
  · rcases cases_of_zero_le ha with ⟨p, rfl, hp⟩ | rfl
    · have hpos := add_pos_of_nonneg_of_pos hp (finite_lt_finite_iff.mp hb)
      exact finite_lt_finite_iff.mpr hpos
    · exact hinfinite
  · rcases cases_of_zero_le ha with ⟨p, rfl, -⟩ | rfl <;> exact hinfinite

end Extended

instance : LawfulScalar Extended where
  symm h := Extended.beq_iff.mpr (Extended.beq_iff.mp h).symm
  trans hab hbc := by
    obtain ⟨hle, hge⟩ := Extended.beq_iff.mp hab
    obtain ⟨hle', hge'⟩ := Extended.beq_iff.mp hbc
    exact Extended.beq_iff.mpr ⟨Extended.le_trans hle hle', Extended.le_trans hge' hge⟩
  le_refl h := by
    obtain ⟨x, hx⟩ := Extended.isNaN_eq_false_iff.mp h
    exact Extended.le_iff.mpr ⟨x, x, hx, hx, le_rfl⟩
  le_trans := Extended.le_trans
  le_total ha hb := by
    obtain ⟨x, hx⟩ := Extended.isNaN_eq_false_iff.mp ha
    obtain ⟨y, hy⟩ := Extended.isNaN_eq_false_iff.mp hb
    exact (le_total x y).imp (fun h ↦ Extended.le_iff.mpr ⟨x, y, hx, hy, h⟩)
      fun h ↦ Extended.le_iff.mpr ⟨y, x, hy, hx, h⟩
  lt_iff_le_not_ge := Extended.lt_iff
  isNaN_of_le h := by
    obtain ⟨x, y, hx, hy, -⟩ := Extended.le_iff.mp h
    exact ⟨Extended.isNaN_eq_false_iff.mpr ⟨x, hx⟩, Extended.isNaN_eq_false_iff.mpr ⟨y, hy⟩⟩
  isNaN_zero := rfl
  add_pos ha hb := by
    rw [Extended.zero_eq] at *
    exact Extended.zero_lt_add ha hb
  two_mul_four_pos := by
    rw [Extended.zero_eq]
    exact Extended.finite_lt_finite_iff.mpr (by norm_num)

instance : UnboundedScalar Extended where
  isFinite_ofInt _ := rfl
  isFinite_ofScientific _ _ _ := rfl
  isFinite_add ha hb := by
    obtain ⟨p, rfl⟩ := Extended.exists_of_isFinite ha
    obtain ⟨q, rfl⟩ := Extended.exists_of_isFinite hb
    rfl
  isFinite_sub ha hb := by
    obtain ⟨p, rfl⟩ := Extended.exists_of_isFinite ha
    obtain ⟨q, rfl⟩ := Extended.exists_of_isFinite hb
    rfl
  isFinite_mul ha hb := by
    obtain ⟨p, rfl⟩ := Extended.exists_of_isFinite ha
    obtain ⟨q, rfl⟩ := Extended.exists_of_isFinite hb
    rfl
  isFinite_div ha hb hne := by
    obtain ⟨p, rfl⟩ := Extended.exists_of_isFinite ha
    obtain ⟨q, rfl⟩ := Extended.exists_of_isFinite hb
    have hq := Extended.finite_beq_zero_eq_false_iff.mp hne
    rw [Extended.finite_div_finite p hq]
    rfl
  isFinite_floor ha := by
    obtain ⟨q, rfl⟩ := Extended.exists_of_isFinite ha
    rfl
  isFinite_ceil ha := by
    obtain ⟨q, rfl⟩ := Extended.exists_of_isFinite ha
    rfl
  isFinite_round ha := by
    obtain ⟨q, rfl⟩ := Extended.exists_of_isFinite ha
    rfl
  ofScientific_ne_zero negative exponent h :=
    Extended.finite_beq_zero_eq_false_iff.mpr (Exact.ofScientific_ne_zero negative exponent h)
  mul_ne_zero ha hb ha' hb' := by
    obtain ⟨p, rfl⟩ := Extended.exists_of_isFinite ha
    obtain ⟨q, rfl⟩ := Extended.exists_of_isFinite hb
    rw [Extended.finite_beq_zero_eq_false_iff] at ha' hb'
    exact Extended.finite_beq_zero_eq_false_iff.mpr (mul_ne_zero ha' hb')

end Charting
