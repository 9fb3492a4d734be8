import Mathlib.Data.Rat.Floor
import Mathlib.Tactic.FieldSimp
import Mathlib.Tactic.Ring
import Charting.Proofs.Numeric.Decade
import Charting.Proofs.Numeric.Laws
import Charting.Proofs.Numeric.Rounding
import Charting.Scale.Nice

/-!
# Nice steps

A nice step is one, two or five times a power of ten, and every positive length is near exactly one
of them (`IsNear.unique`, `exists_near?`).  Lengths are rounded to whole steps with `snap`, which
takes what is within `noise` of an integer for that integer.  Numbers are exact here.
-/

namespace Charting

/-! ## Rounding but for noise -/

/-- What is less than this away from an integer counts as the integer. -/
def noise : ℚ := 1e-9

theorem noise_pos : 0 < noise := by norm_num [noise]

theorem noise_lt : noise < 1 / 100 := by norm_num [noise]

namespace Exact

theorem abs_eq (q : ℚ) : Scalar.abs q = |q| := by
  change (if q < 0 then -q else q) = |q|
  split
  case isTrue hneg => exact (abs_of_neg hneg).symm
  case isFalse hnonneg => exact (abs_of_nonneg (not_lt.mp hnonneg)).symm

theorem ceil_eq (q : ℚ) : Scalar.ceil q = ((⌈q⌉ : ℤ) : ℚ) :=
  congrArg Int.cast (Rat.ceil_eq_neg_floor_neg q)

end Exact

section Snap

variable (q : ℚ) (up : Bool)

theorem snap_eq : snap q up =
    ((if |q - roundHalfAway q| < noise then roundHalfAway q
      else if up then ⌈q⌉ else ⌊q⌋ : ℤ) : ℚ) := by
  have hround : Scalar.round q = (roundHalfAway q : ℚ) := rfl
  have hfloor : Scalar.floor q = ((⌊q⌋ : ℤ) : ℚ) := rfl
  rw [snap, hround, Exact.ceil_eq, hfloor, Exact.abs_eq, apply_ite Int.cast, apply_ite Int.cast]
  rfl

/-- A quotient is rounded to an integer. -/
theorem exists_snap_eq : ∃ k : ℤ, snap q up = k := ⟨_, snap_eq q up⟩

/-- Rounding goes by less than one. -/
theorem abs_snap_sub_lt_one : |snap q up - q| < 1 := by
  have hnoise := noise_lt
  rw [snap_eq]
  split_ifs with hnear
  · rw [abs_sub_comm]
    linarith
  · rw [abs_of_nonneg (sub_nonneg.mpr (Int.le_ceil q))]
    linarith [Int.ceil_lt_add_one q]
  · rw [abs_of_nonpos (sub_nonpos.mpr (Int.floor_le q))]
    linarith [Int.lt_floor_add_one q]

/-- Rounding down goes up by noise only. -/
theorem snap_false_le : snap q false ≤ q + noise := by
  have hnoise := noise_pos
  rw [snap_eq]
  split_ifs with hnear hup
  · linarith [(abs_lt.mp hnear).1]
  · cases hup
  · linarith [Int.floor_le q]

/-- Rounding up goes down by noise only. -/
theorem le_snap_true : q - noise ≤ snap q true := by
  have hnoise := noise_pos
  rw [snap_eq]
  split_ifs with hnear hup
  · linarith [(abs_lt.mp hnear).2]
  · linarith [Int.le_ceil q]
  · exact absurd rfl hup

variable {q}

/-- Rounding does not go past an integer. -/
theorem snap_le_of_le {k : ℤ} (h : q ≤ k) : snap q up ≤ k := by
  rw [snap_eq, Int.cast_le]
  split_ifs with hnear
  · have hlt : (roundHalfAway q : ℚ) < (k + 1 : ℤ) := by
      push_cast
      linarith [(abs_lt.mp hnear).1, noise_lt]
    exact Int.lt_add_one_iff.mp (by exact_mod_cast hlt)
  · exact Int.ceil_le.mpr h
  · exact_mod_cast (Int.floor_le q).trans h

/-- Rounding does not go past an integer. -/
theorem le_snap_of_le {k : ℤ} (h : k ≤ q) : k ≤ snap q up := by
  rw [snap_eq, Int.cast_le]
  split_ifs with hnear
  · have hlt : (k : ℚ) < (roundHalfAway q + 1 : ℤ) := by
      push_cast
      linarith [(abs_lt.mp hnear).2, noise_lt]
    exact Int.lt_add_one_iff.mp (by exact_mod_cast hlt)
  · exact_mod_cast h.trans (Int.le_ceil q)
  · exact Int.le_floor.mpr h

/-- Integers stay as they are. -/
theorem snap_intCast (k : ℤ) : snap (k : ℚ) up = k :=
  le_antisymm (snap_le_of_le up le_rfl) (le_snap_of_le up le_rfl)

end Snap

/-! ## Lengths and steps -/

/-- The step of a length: the nice step whose neighbours are farther away. -/
inductive IsNear (x : ℚ) : ℚ → Prop
  /-- The length is at least three quarters of a power of ten. -/
  | one (p : ℤ) (hle : 3 / 4 * 10 ^ p ≤ x) (hlt : x < 3 / 2 * 10 ^ p) : IsNear x (10 ^ p)
  /-- The length is at least three halves of a power of ten. -/
  | two (p : ℤ) (hle : 3 / 2 * 10 ^ p ≤ x) (hlt : x < 7 / 2 * 10 ^ p) : IsNear x (2 * 10 ^ p)
  /-- The length is at least seven halves of a power of ten. -/
  | five (p : ℤ) (hle : 7 / 2 * 10 ^ p ≤ x) (hlt : x < 15 / 2 * 10 ^ p) : IsNear x (5 * 10 ^ p)

namespace IsNear

variable {x y v w : ℚ}

theorem step_pos (h : IsNear x v) : 0 < v := by
  cases h <;> positivity

/-- A length is less than twice its step. -/
theorem bounds (h : IsNear x v) : 7 / 10 * v ≤ x ∧ x < 7 / 4 * v := by
  cases h with
  | one p | two p | five p =>
      have hpow : (0 : ℚ) < 10 ^ p := by positivity
      constructor <;> linarith

/-- The power of ten of a step, and the range of lengths that is its own. -/
theorem exists_decade (h : IsNear x v) : ∃ p : ℤ, 10 ^ p ≤ 4 / 3 * x ∧ 4 / 3 * x < 10 ^ (p + 1) ∧
    (v = 10 ^ p ∧ x < 3 / 2 * 10 ^ p ∨
      v = 2 * 10 ^ p ∧ 3 / 2 * 10 ^ p ≤ x ∧ x < 7 / 2 * 10 ^ p ∨
      v = 5 * 10 ^ p ∧ 7 / 2 * 10 ^ p ≤ x) := by
  cases h with
  | one p hle hlt | two p hle hlt | five p hle hlt =>
      have hpow : (0 : ℚ) < 10 ^ p := by positivity
      refine ⟨p, by linarith, ?_, by simp [hle, hlt]⟩
      rw [zpow_add_one₀ (by norm_num)]
      linarith

/-- A length has one step. -/
theorem unique (hv : IsNear x v) (hw : IsNear x w) : v = w := by
  obtain ⟨p, hp, hp', hv⟩ := hv.exists_decade
  obtain ⟨p', hq, hq', hw⟩ := hw.exists_decade
  obtain rfl := zpow_ten_inj hp hp' hq hq'
  rcases hv with ⟨rfl, hv⟩ | ⟨rfl, hv, hv'⟩ | ⟨rfl, hv⟩ <;>
    rcases hw with ⟨rfl, hw⟩ | ⟨rfl, hw, hw'⟩ | ⟨rfl, hw⟩ <;> first | rfl | (exfalso; linarith)

end IsNear

namespace NiceStep

variable (s : NiceStep ℚ)

theorem value_eq : s.value = s.factor * 10 ^ s.power := by
  rw [value]
  split
  case isTrue hpower =>
    rw [Exact.pow10_eq, ← zpow_natCast, Int.toNat_of_nonneg hpower]
  case isFalse hpower =>
    rw [Exact.pow10_eq, ← zpow_natCast, Int.toNat_of_nonneg (by omega), zpow_neg, div_inv_eq_mul]

/-- Dividing by a power of ten is exact. -/
theorem times_eq (k : ℚ) : s.times k = k * s.value := by
  rw [times]
  split
  case isTrue hpower => rfl
  case isFalse hpower => rw [value, if_neg hpower, mul_div_assoc]

theorem quotient_eq (x : ℚ) : s.quotient x = x / s.value := by
  rw [quotient]
  split
  case isTrue hpower => rfl
  case isFalse hpower => rw [value, if_neg hpower, div_div_eq_mul_div]

theorem floor_eq (x : ℚ) : s.floor x = snap (x / s.value) false * s.value := by
  rw [floor, times_eq, quotient_eq]

theorem ceil_eq (x : ℚ) : s.ceil x = snap (x / s.value) true * s.value := by
  rw [ceil, times_eq, quotient_eq]

end NiceStep

theorem near?_of_nonpos {x : ℚ} (hx : x ≤ 0) : NiceStep.near? x = none := by
  rw [← Exact.zero_eq] at hx
  have h : (!Scalar.isFinite x || decide (x ≤ 0.0)) = true := by simp [hx]
  rw [NiceStep.near?, if_pos h]

/-- Every positive length has a step. -/
theorem exists_near? {x : ℚ} (hx : 0 < x) :
    ∃ step, NiceStep.near? x = some step ∧ IsNear x step.value := by
  have hfinite : ¬(!Scalar.isFinite x || decide (x ≤ 0.0)) = true := by
    rw [Exact.zero_eq]
    simpa [Scalar.isFinite] using hx
  have hunit : NiceStep.value ⟨1.0, Scalar.decade x⟩ = (10 : ℚ) ^ Scalar.decade x := by
    rw [NiceStep.value_eq]
    norm_num
  obtain ⟨hle, hlt⟩ := Exact.decade_bounds hx
  rw [NiceStep.near?, if_neg hfinite]
  refine ⟨_, rfl, ?_⟩
  rw [hunit, NiceStep.value_eq]
  generalize Scalar.decade x = p at *
  have hpow : (0 : ℚ) < 10 ^ p := by positivity
  have hnext : (10 : ℚ) ^ (p + 1) = 10 ^ p * 10 := zpow_add_one₀ (by norm_num) p
  simp only [le_div_iff₀ hpow]
  norm_num only
  split_ifs with hten hfive htwo
  · rw [mul_comm, ← hnext]
    exact IsNear.one _ (by linarith) (by linarith)
  · exact IsNear.five _ hfive (not_le.mp hten)
  · exact IsNear.two _ htwo (not_le.mp hfive)
  · rw [one_mul]
    exact IsNear.one _ (by linarith) (not_le.mp htwo)

theorem isNear_of_near? {x : ℚ} {step : NiceStep ℚ} (h : NiceStep.near? x = some step) :
    IsNear x step.value := by
  rcases le_or_gt x 0 with hle | hpos
  · rw [near?_of_nonpos hle] at h
    cases h
  · obtain ⟨step', hstep', hnear⟩ := exists_near? hpos
    obtain rfl := Option.some.inj (hstep'.symm.trans h)
    exact hnear

/-! ## Parts of an interval -/

theorem intervals_eq (count : Nat) : (intervals count : ℚ) = (max count 1 : ℕ) := rfl

theorem one_le_intervals (count : Nat) : (1 : ℚ) ≤ intervals count := by
  rw [intervals_eq]
  exact_mod_cast le_max_right count 1

theorem intervals_pos (count : Nat) : (0 : ℚ) < intervals count :=
  one_pos.trans_le (one_le_intervals count)

end Charting
