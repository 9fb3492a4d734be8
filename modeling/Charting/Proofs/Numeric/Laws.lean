import Mathlib.Tactic.NormNum
import Charting.Numeric.Exact

/-!
# Laws of numbers

What doubles and rationals have in common.  Results without a value apart, numbers are in a total
preorder, `<` is its strict part, and `==` is symmetric and transitive.  Sums are rounded, but a sum
of a number that is not negative and a positive one is positive.  This is enough to tell that the
greatest of some sizes is positive if one of them is (`Scalar.zero_lt_foldl_max`).
-/

namespace Charting

/-- Numbers that can be compared and added as usual, but for rounding and for results without a
value. -/
class LawfulScalar (R : Type) [Scalar R] : Prop extends PartialEquivBEq R where
  /-- What has a value can be compared with itself. -/
  le_refl {a : R} : Scalar.isNaN a = false → a ≤ a
  /-- The order is transitive. -/
  le_trans {a b c : R} : a ≤ b → b ≤ c → a ≤ c
  /-- What has a value can be compared. -/
  le_total {a b : R} : Scalar.isNaN a = false → Scalar.isNaN b = false → a ≤ b ∨ b ≤ a
  /-- The strict order belongs to the other one. -/
  lt_iff_le_not_ge {a b : R} : a < b ↔ a ≤ b ∧ ¬b ≤ a
  /-- What can be compared has a value. -/
  isNaN_of_le {a b : R} : a ≤ b → Scalar.isNaN a = false ∧ Scalar.isNaN b = false
  /-- Zero has a value. -/
  isNaN_zero : Scalar.isNaN (0.0 : R) = false
  /-- A sum with a positive number is positive. -/
  add_pos {a b : R} : 0.0 ≤ a → 0.0 < b → 0.0 < a + b
  /-- Twice four is positive. -/
  two_mul_four_pos : (0.0 : R) < 2.0 * 4.0

/-! ## Rationals -/

namespace Exact

theorem zero_eq : (0.0 : Rat) = 0 := by norm_num

theorem max_eq (a b : Rat) : Scalar.max a b = max a b := (max_def a b).symm

theorem ofNat_eq (n : Nat) : (Scalar.ofNat n : Rat) = n := Int.cast_natCast n

end Exact

instance : LawfulScalar Rat where
  symm := BEq.symm
  trans := BEq.trans
  le_refl _ := le_refl _
  le_trans := le_trans
  le_total _ _ := le_total _ _
  lt_iff_le_not_ge := lt_iff_le_not_ge
  isNaN_of_le _ := ⟨rfl, rfl⟩
  isNaN_zero := rfl
  add_pos ha hb := by
    rw [Exact.zero_eq] at *
    exact add_pos_of_nonneg_of_pos ha hb
  two_mul_four_pos := by decide +kernel

/-! ## The greatest of some numbers -/

namespace Scalar

variable {R : Type} [Scalar R] [LawfulScalar R] {a b c : R}

theorem lt_of_lt_of_le (hab : a < b) (hbc : b ≤ c) : a < c := by
  obtain ⟨hle, hnot⟩ := LawfulScalar.lt_iff_le_not_ge.mp hab
  refine LawfulScalar.lt_iff_le_not_ge.mpr ⟨LawfulScalar.le_trans hle hbc, fun hca ↦ hnot ?_⟩
  exact LawfulScalar.le_trans hbc hca

theorem isNaN_of_lt (h : a < b) : isNaN b = false :=
  (LawfulScalar.isNaN_of_le (LawfulScalar.lt_iff_le_not_ge.mp h).1).2

/-- A maximum is not less than its first operand if this has a value. -/
theorem le_max_left (ha : isNaN a = false) : a ≤ max a b := by
  unfold max
  split
  · assumption
  · rw [ha, if_neg Bool.false_ne_true]
    exact LawfulScalar.le_refl ha

/-- A maximum is not less than its second operand if this has a value. -/
theorem le_max_right (hb : isNaN b = false) : b ≤ max a b := by
  unfold max
  split
  · exact LawfulScalar.le_refl hb
  · rename_i hle
    cases ha : isNaN a with
    | true => exact LawfulScalar.le_refl hb
    | false => exact (LawfulScalar.le_total ha hb).resolve_left hle

/-- The greatest of some numbers is not less than any of them that has a value. -/
theorem le_foldl_max {x : R} {xs : List R} (hx : x ∈ a :: xs) (h : isNaN x = false) :
    x ≤ xs.foldl max a := by
  induction xs generalizing a x with
  | nil =>
      rw [List.mem_singleton.mp hx] at h ⊢
      exact LawfulScalar.le_refl h
  | cons y xs ih =>
      -- The greater one of the first two numbers takes their place.
      have hmax (hle : x ≤ max a y) : x ≤ xs.foldl max (max a y) :=
        LawfulScalar.le_trans hle (ih List.mem_cons_self (LawfulScalar.isNaN_of_le hle).2)
      rcases List.mem_cons.mp hx with rfl | hx
      · exact hmax (le_max_left h)
      · rcases List.mem_cons.mp hx with rfl | hx
        · exact hmax (le_max_right h)
        · exact ih (List.mem_cons_of_mem _ hx) h

/-- The greatest of some numbers is positive if one of them is. -/
theorem zero_lt_foldl_max {xs : List R} (h : ∃ x ∈ a :: xs, 0.0 < x) : 0.0 < xs.foldl max a := by
  obtain ⟨x, hx, hpos⟩ := h
  exact lt_of_lt_of_le hpos (le_foldl_max hx (isNaN_of_lt hpos))

end Scalar

end Charting
