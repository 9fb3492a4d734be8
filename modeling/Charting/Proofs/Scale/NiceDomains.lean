import Mathlib.Dynamics.FixedPoints.Basic
import Charting.Proofs.Scale.NiceSteps

/-!
# Nice domains

`niceDomain` widens an interval round by round.  With two parts or more it has settled after three
rounds (`isFixedPt_widen_iterate_three`), so that the limit of ten is never felt and the result is a
fixed point.  With a single part the only fixed points are intervals of one step: an interval around
zero is none and grows until the rounds are used up (`IsWidened.niceDomain_ne_self`).
-/

namespace Charting

open Function (IsFixedPt)

variable {count : Nat} {d : ℚ × ℚ} {v w : ℚ}

/-- The length of each of `count` parts of an interval. -/
def partLength (count : Nat) (d : ℚ × ℚ) : ℚ := (d.2 - d.1) / intervals count

/-- One round of the extension. -/
def widen (count : Nat) (d : ℚ × ℚ) : ℚ × ℚ :=
  match NiceStep.near? (partLength count d) with
  | none => d
  | some step => (step.floor d.1, step.ceil d.2)

theorem partLength_mul_intervals : partLength count d * intervals count = d.2 - d.1 :=
  div_mul_cancel₀ _ (intervals_pos count).ne'

theorem widen_of_isNear (h : IsNear (partLength count d) v) :
    widen count d = (snap (d.1 / v) false * v, snap (d.2 / v) true * v) := by
  have hpos : 0 < partLength count d := by linarith [h.bounds.1, h.step_pos]
  obtain ⟨step, hstep, hnear⟩ := exists_near? hpos
  obtain rfl := hnear.unique h
  rw [widen, hstep]
  exact Prod.ext (step.floor_eq d.1) (step.ceil_eq d.2)

theorem widen_of_le (h : d.2 ≤ d.1) : widen count d = d := by
  have hpart : partLength count d ≤ 0 :=
    div_nonpos_of_nonpos_of_nonneg (sub_nonpos.mpr h) (intervals_pos count).le
  rw [widen, near?_of_nonpos hpart]

/-! ## The rounds -/

theorem extendNice_eq_iterate (fuel : Nat) (lo hi : ℚ) :
    extendNice count fuel lo hi = (widen count)^[fuel] (lo, hi) := by
  induction fuel generalizing lo hi with
  | zero => rfl
  | succ fuel ih =>
      have hround : widen count (lo, hi) = match NiceStep.near? ((hi - lo) / intervals count) with
        | none => (lo, hi)
        | some step => (step.floor lo, step.ceil hi) := rfl
      rw [extendNice]
      cases hstep : NiceStep.near? ((hi - lo) / (intervals count : ℚ)) with
      | none =>
          rw [hstep] at hround
          exact (Function.iterate_fixed hround _).symm
      | some step =>
          rw [hstep] at hround
          dsimp only at hround ⊢
          split
          case isTrue hstable =>
            simp only [Bool.and_eq_true, beq_iff_eq] at hstable
            rw [hstable.1, hstable.2] at hround
            exact (Function.iterate_fixed hround _).symm
          case isFalse => rw [ih, Function.iterate_succ_apply, hround]

theorem niceDomain_eq_iterate {lo hi : ℚ} (h : lo < hi) :
    niceDomain lo hi count = (widen count)^[niceRounds] (lo, hi) := by
  have hproper : ¬(!Scalar.isFinite lo || !Scalar.isFinite hi || decide (hi ≤ lo)) = true := by
    simpa [Scalar.isFinite] using h
  rw [niceDomain, if_neg hproper, extendNice_eq_iterate]

/-- A round moves each end by less than one step. -/
theorem width_widen_lt (h : IsNear (partLength count d) v) :
    (widen count d).2 - (widen count d).1 < d.2 - d.1 + 2 * v := by
  have hv := h.step_pos
  have hlo := (abs_lt.mp (abs_snap_sub_lt_one (d.1 / v) false)).1
  have hhi := (abs_lt.mp (abs_snap_sub_lt_one (d.2 / v) true)).2
  rw [lt_sub_iff_add_lt, neg_add_lt_iff_lt_add, div_lt_iff₀ hv] at hlo
  rw [sub_lt_iff_lt_add, ← sub_lt_iff_lt_add', lt_div_iff₀ hv] at hhi
  rw [widen_of_isNear h]
  dsimp only
  linarith

/-- A round does not take away a twentieth of a step, for the length is then a whole number of
steps. -/
theorem le_partLength_widen (h : IsNear (partLength count d) v) {u : ℤ}
    (hu : u * v ≤ 20 * partLength count d) : u * v ≤ 20 * partLength count (widen count d) := by
  have hv := h.step_pos
  have hc := intervals_pos count
  obtain ⟨a, ha⟩ := exists_snap_eq (d.1 / v) false
  obtain ⟨b, hb⟩ := exists_snap_eq (d.2 / v) true
  have hlo := snap_false_le (d.1 / v)
  have hhi := le_snap_true (d.2 / v)
  rw [partLength, mul_div_assoc', le_div_iff₀ hc] at hu ⊢
  rw [widen_of_isNear h, ha, hb]
  rw [ha] at hlo
  rw [hb] at hhi
  rw [intervals_eq] at *
  generalize max count 1 = c at *
  -- both sides are integers, so that the noise of the two ends is lost between them
  have hwidth : u * c < 20 * (b - a) + 1 := by
    have hquot : (u * c : ℚ) ≤ 20 * (d.2 / v - d.1 / v) := by
      rw [← sub_div, mul_div_assoc', le_div_iff₀ hv]
      linarith
    exact_mod_cast (by linarith [noise_lt] : (u * c : ℚ) < 20 * (b - a) + 1)
  have hwidth' : (u * c : ℚ) ≤ 20 * (b - a) := by exact_mod_cast Int.lt_add_one_iff.mp hwidth
  nlinarith

/-! ## Aligned intervals -/

/-- Both ends of an interval are multiples of a length. -/
def IsAligned (v : ℚ) (d : ℚ × ℚ) : Prop := ∃ a b : ℤ, d = (a * v, b * v)

theorem isAligned_widen (h : IsNear (partLength count d) v) : IsAligned v (widen count d) := by
  obtain ⟨a, ha⟩ := exists_snap_eq (d.1 / v) false
  obtain ⟨b, hb⟩ := exists_snap_eq (d.2 / v) true
  exact ⟨a, b, by rw [widen_of_isNear h, ha, hb]⟩

/-- An interval that is aligned with its own step does not change. -/
theorem isFixedPt_widen (ha : IsAligned v d) (h : IsNear (partLength count d) v) :
    IsFixedPt (widen count) d := by
  obtain ⟨a, b, rfl⟩ := ha
  have hv := h.step_pos.ne'
  change widen count _ = _
  rw [widen_of_isNear h]
  simp only [mul_div_cancel_right₀ _ hv, snap_intCast]

/-- The shorter length is a fraction of the longer one with a small denominator, so that what is
aligned with it is rounded to the longer one without noise. -/
structure IsFraction (n m : ℕ) (v w : ℚ) : Prop where
  /-- There is a denominator. -/
  pos : 0 < n
  /-- The denominator is small. -/
  le_five : n ≤ 5
  /-- The fraction. -/
  eq : n * v = m * w

section Fraction

variable {n m : ℕ}

/-- Rounding a quotient changes what is divided by less than the divisor. -/
theorem mul_snap_div_bounds (hn : 0 < n) (a : ℤ) (up : Bool) :
    a - (n - 1 : ℚ) ≤ n * snap (a / n : ℚ) up ∧ n * snap (a / n : ℚ) up ≤ a + (n - 1 : ℚ) := by
  have hpos : (0 : ℚ) < n := by exact_mod_cast hn
  have hmul : n * (a / n : ℚ) = a := mul_div_cancel₀ _ hpos.ne'
  obtain ⟨k, hk⟩ := exists_snap_eq (a / n : ℚ) up
  have hclose := mul_lt_mul_of_pos_left (abs_snap_sub_lt_one (a / n : ℚ) up) hpos
  rw [← abs_of_pos hpos, ← abs_mul, abs_of_pos hpos, mul_sub, hmul, mul_one, hk] at hclose
  have hint : |n * k - a| < n := by exact_mod_cast hclose
  rw [hk]
  obtain ⟨hlower, hupper⟩ := abs_lt.mp hint
  constructor
  · exact_mod_cast (by omega : a - (n - 1) ≤ n * k)
  · exact_mod_cast (by omega : n * k ≤ a + (n - 1))

theorem mul_snap_div_le (hn : 0 < n) (hn' : n ≤ 5) (a : ℤ) : n * snap (a / n : ℚ) false ≤ a := by
  have hpos : (0 : ℚ) < n := by exact_mod_cast hn
  have hle : (n : ℚ) ≤ 5 := by exact_mod_cast hn'
  obtain ⟨k, hk⟩ := exists_snap_eq (a / n : ℚ) false
  have habove := mul_le_mul_of_nonneg_left (snap_false_le (a / n : ℚ)) hpos.le
  rw [mul_add, mul_div_cancel₀ _ hpos.ne'] at habove
  have hsmall : n * noise < 1 := by nlinarith [noise_lt, noise_pos]
  rw [hk] at habove ⊢
  have hint : n * k < a + 1 := by exact_mod_cast (by linarith : (n * k : ℚ) < a + 1)
  exact_mod_cast Int.lt_add_one_iff.mp hint

theorem le_mul_snap_div (hn : 0 < n) (hn' : n ≤ 5) (a : ℤ) : a ≤ n * snap (a / n : ℚ) true := by
  have hpos : (0 : ℚ) < n := by exact_mod_cast hn
  have hle : (n : ℚ) ≤ 5 := by exact_mod_cast hn'
  obtain ⟨k, hk⟩ := exists_snap_eq (a / n : ℚ) true
  have hbelow := mul_le_mul_of_nonneg_left (le_snap_true (a / n : ℚ)) hpos.le
  rw [mul_sub, mul_div_cancel₀ _ hpos.ne'] at hbelow
  have hsmall : n * noise < 1 := by nlinarith [noise_lt, noise_pos]
  rw [hk] at hbelow ⊢
  have hint : a < n * k + 1 := by exact_mod_cast (by linarith : (a : ℚ) < n * k + 1)
  exact_mod_cast Int.lt_add_one_iff.mp hint

/-- An aligned interval is widened outwards, by less than one step at each end. -/
theorem widen_of_isFraction (ha : IsAligned v d) (hfrac : IsFraction n m v w)
    (h : IsNear (partLength count d) w) :
    (widen count d).1 ≤ d.1 ∧ d.2 ≤ (widen count d).2 ∧
      n * (widen count d).2 - n * (widen count d).1 ≤
        n * d.2 - n * d.1 + 2 * ((n - 1) * w) := by
  have hw := h.step_pos
  have hpos : (0 : ℚ) < n := by exact_mod_cast hfrac.pos
  have hmul (i : ℤ) : n * (i * v) = (i * m : ℤ) * w := by
    rw [mul_left_comm, hfrac.eq]
    push_cast
    ring
  have hquot (i : ℤ) : i * v / w = (i * m : ℤ) / n := by
    rw [div_eq_div_iff hw.ne' hpos.ne', mul_comm, hmul]
  obtain ⟨a, b, rfl⟩ := ha
  rw [widen_of_isNear h]
  dsimp only
  rw [hquot, hquot]
  have hlower := mul_le_mul_of_nonneg_right (mul_snap_div_bounds hfrac.pos (a * m) false).1 hw.le
  have hupper := mul_le_mul_of_nonneg_right (mul_snap_div_bounds hfrac.pos (b * m) true).2 hw.le
  have hlo := mul_le_mul_of_nonneg_right (mul_snap_div_le hfrac.pos hfrac.le_five (a * m)) hw.le
  have hhi := mul_le_mul_of_nonneg_right (le_mul_snap_div hfrac.pos hfrac.le_five (b * m)) hw.le
  rw [mul_assoc, ← hmul] at hlo hhi
  exact ⟨le_of_mul_le_mul_left hlo hpos, le_of_mul_le_mul_left hhi hpos,
    by linarith [hmul a, hmul b]⟩

theorem partLength_le_partLength_widen (ha : IsAligned v d) (hfrac : IsFraction n m v w)
    (h : IsNear (partLength count d) w) : partLength count d ≤ partLength count (widen count d) := by
  obtain ⟨hlo, hhi, -⟩ := widen_of_isFraction ha hfrac h
  exact div_le_div_of_nonneg_right (by linarith) (intervals_pos count).le

end Fraction

/-! ## Two parts or more -/

section Settling

variable {n m : ℕ} (hcount : 2 ≤ count)

include hcount

theorem two_le_intervals : (2 : ℚ) ≤ intervals count := by
  rw [intervals_eq]
  exact_mod_cast le_max_of_le_left hcount

theorem partLength_widen_lt (h : IsNear (partLength count d) v) :
    partLength count (widen count d) < partLength count d + v := by
  have hv := h.step_pos
  have hc := two_le_intervals hcount
  have hwidth := width_widen_lt h
  rw [← partLength_mul_intervals, ← partLength_mul_intervals] at hwidth
  nlinarith

theorem partLength_widen_le (ha : IsAligned v d) (hfrac : IsFraction n m v w)
    (h : IsNear (partLength count d) w) :
    n * partLength count (widen count d) ≤ n * partLength count d + (n - 1) * w := by
  have hw := h.step_pos
  have hc := two_le_intervals hcount
  have hn : (0 : ℚ) ≤ n - 1 := by
    have : (1 : ℚ) ≤ n := by exact_mod_cast hfrac.pos
    linarith
  obtain ⟨-, -, hwidth⟩ := widen_of_isFraction ha hfrac h
  rw [← mul_sub, ← mul_sub, ← partLength_mul_intervals, ← partLength_mul_intervals] at hwidth
  nlinarith [mul_nonneg hn hw.le]

variable {p : ℤ}

/-- From one times a power of ten the step can only double. -/
theorem isFixedPt_widen_of_one (ha : IsAligned (10 ^ p) d)
    (hle : 3 / 4 * 10 ^ p ≤ partLength count d) (hlt : partLength count d < 5 / 2 * 10 ^ p) :
    IsFixedPt (widen count) (widen count d) := by
  rcases lt_or_ge (partLength count d) (3 / 2 * 10 ^ p) with hnear | hfar
  · have hfixed := isFixedPt_widen ha (.one p hle hnear)
    rwa [hfixed]
  · have hpow : (0 : ℚ) < 10 ^ p := by positivity
    have hstep : IsNear (partLength count d) (2 * 10 ^ p) := .two p hfar (by linarith)
    have hfrac : IsFraction 2 1 (10 ^ p) (2 * 10 ^ p) := ⟨by decide, by decide, by ring⟩
    have hle' := partLength_le_partLength_widen ha hfrac hstep
    have hle'' := partLength_widen_le hcount ha hfrac hstep
    push_cast at hle''
    exact isFixedPt_widen (isAligned_widen hstep) (.two p (by linarith) (by linarith))

/-- Parts that are nearer to ten than to five times a power of ten grow by half a step at most. -/
theorem widen_of_five (ha : IsAligned (5 * 10 ^ p) d)
    (hle : 3 / 4 * 10 ^ (p + 1) ≤ partLength count d)
    (hlt : partLength count d < 3 / 2 * 10 ^ (p + 1)) :
    IsAligned (10 ^ (p + 1)) (widen count d) ∧
      3 / 4 * 10 ^ (p + 1) ≤ partLength count (widen count d) ∧
      partLength count (widen count d) ≤ partLength count d + 1 / 2 * 10 ^ (p + 1) := by
  have hstep : IsNear (partLength count d) (10 ^ (p + 1)) := .one (p + 1) hle hlt
  have hfrac : IsFraction 2 1 (5 * 10 ^ p) (10 ^ (p + 1)) :=
    ⟨by decide, by decide, by rw [zpow_add_one₀ (by norm_num) p]; ring⟩
  have hle' := partLength_widen_le hcount ha hfrac hstep
  push_cast at hle'
  exact ⟨isAligned_widen hstep, hle.trans (partLength_le_partLength_widen ha hfrac hstep),
    by linarith⟩

/-- From five times a power of ten the step can only double, if the parts are not too long. -/
theorem isFixedPt_widen_of_five (ha : IsAligned (5 * 10 ^ p) d)
    (hle : 7 / 2 * 10 ^ p ≤ partLength count d) (hlt : partLength count d < 10 * 10 ^ p) :
    IsFixedPt (widen count) (widen count d) := by
  rcases lt_or_ge (partLength count d) (15 / 2 * 10 ^ p) with hnear | hfar
  · have hfixed := isFixedPt_widen ha (.five p hle hnear)
    rwa [hfixed]
  · have hpow : (0 : ℚ) < 10 ^ p := by positivity
    have hnext : (10 : ℚ) ^ (p + 1) = 10 ^ p * 10 := zpow_add_one₀ (by norm_num) p
    obtain ⟨ha', hle', hlt'⟩ := widen_of_five hcount ha (by linarith) (by linarith)
    exact isFixedPt_widen ha' (.one (p + 1) hle' (by linarith))

/-- From two times a power of ten the step goes to five and from there to ten at most. -/
theorem isFixedPt_widen_of_two (ha : IsAligned (2 * 10 ^ p) d)
    (hle : 3 / 2 * 10 ^ p ≤ partLength count d) (hlt : partLength count d < 11 / 2 * 10 ^ p) :
    IsFixedPt (widen count) (widen count (widen count d)) := by
  rcases lt_or_ge (partLength count d) (7 / 2 * 10 ^ p) with hnear | hfar
  · have hfixed := isFixedPt_widen ha (.two p hle hnear)
    rwa [hfixed, hfixed]
  · have hpow : (0 : ℚ) < 10 ^ p := by positivity
    have hstep : IsNear (partLength count d) (5 * 10 ^ p) := .five p hfar (by linarith)
    have hfrac : IsFraction 5 2 (2 * 10 ^ p) (5 * 10 ^ p) := ⟨by decide, by decide, by ring⟩
    have hle' := partLength_le_partLength_widen ha hfrac hstep
    have hle'' := partLength_widen_le hcount ha hfrac hstep
    push_cast at hle''
    exact isFixedPt_widen_of_five hcount (isAligned_widen hstep) (by linarith) (by linarith)

/-- From five times a power of ten the step doubles twice at most. -/
theorem isFixedPt_widen_widen_of_five (ha : IsAligned (5 * 10 ^ p) d)
    (hle : 7 / 2 * 10 ^ p ≤ partLength count d) (hlt : partLength count d < 25 / 2 * 10 ^ p) :
    IsFixedPt (widen count) (widen count (widen count d)) := by
  rcases lt_or_ge (partLength count d) (15 / 2 * 10 ^ p) with hnear | hfar
  · have hfixed := isFixedPt_widen ha (.five p hle hnear)
    rwa [hfixed, hfixed]
  · have hpow : (0 : ℚ) < 10 ^ p := by positivity
    have hnext : (10 : ℚ) ^ (p + 1) = 10 ^ p * 10 := zpow_add_one₀ (by norm_num) p
    obtain ⟨ha', hle', hlt'⟩ := widen_of_five hcount ha (by linarith) (by linarith)
    exact isFixedPt_widen_of_one hcount ha' hle' (by linarith)

/-- The third round at the latest is the last one to change an interval. -/
theorem isFixedPt_widen_iterate_three (d : ℚ × ℚ) :
    IsFixedPt (widen count) ((widen count)^[3] d) := by
  rcases le_or_gt d.2 d.1 with hle | hlt
  · have hfixed : IsFixedPt (widen count) d := widen_of_le hle
    rwa [Function.iterate_fixed hfixed]
  have hpos : 0 < partLength count d := div_pos (sub_pos.mpr hlt) (intervals_pos count)
  obtain ⟨step, -, hnear⟩ := exists_near? hpos
  generalize step.value = v at hnear
  -- the ends are arbitrary before the first round and aligned after it; two rounds are left
  have hround := partLength_widen_lt hcount hnear
  have ha := isAligned_widen hnear
  have hkeep (u : ℤ) := le_partLength_widen (u := u) hnear
  change IsFixedPt _ (widen count (widen count (widen count d)))
  cases hnear with
  | one p hle hlt =>
      have hle' := hkeep 15 (by push_cast; linarith)
      push_cast at hle'
      have hfixed := isFixedPt_widen_of_one hcount ha (by linarith) (by linarith)
      rwa [hfixed]
  | two p hle hlt =>
      have hle' := hkeep 15 (by push_cast; linarith)
      push_cast at hle'
      exact isFixedPt_widen_of_two hcount ha (by linarith) (by linarith)
  | five p hle hlt =>
      have hle' := hkeep 14 (by push_cast; linarith)
      push_cast at hle'
      exact isFixedPt_widen_widen_of_five hcount ha (by linarith) (by linarith)

end Settling

/-! ## Widening goes outwards -/

/-- An interval as a round leaves it: aligned with a length that is a fraction of its own step. -/
def IsWidened (count : Nat) (d : ℚ × ℚ) : Prop :=
  ∃ (n m : ℕ) (v w : ℚ), IsAligned v d ∧ IsFraction n m v w ∧ IsNear (partLength count d) w

/-- Less than two steps more lead at most from one to two, from two to five and from five to
twenty. -/
theorem IsNear.exists_next {x y : ℚ} (h : IsNear x v)
    (hkeep : ∀ u : ℤ, u * v ≤ 20 * x → u * v ≤ 20 * y) (hlt : y < x + 2 * v) :
    ∃ (n m : ℕ) (w : ℚ), IsFraction n m v w ∧ IsNear y w := by
  cases h with
  | one p hle hlt' =>
      have hle' := hkeep 15 (by push_cast; linarith)
      push_cast at hle'
      rcases lt_or_ge y (3 / 2 * 10 ^ p) with hnear | hfar
      · exact ⟨1, 1, _, ⟨by decide, by decide, rfl⟩, .one p (by linarith) hnear⟩
      · exact ⟨2, 1, _, ⟨by decide, by decide, by ring⟩, .two p hfar (by linarith)⟩
  | two p hle hlt' =>
      have hle' := hkeep 15 (by push_cast; linarith)
      push_cast at hle'
      rcases lt_or_ge y (7 / 2 * 10 ^ p) with hnear | hfar
      · exact ⟨1, 1, _, ⟨by decide, by decide, rfl⟩, .two p (by linarith) hnear⟩
      · exact ⟨5, 2, _, ⟨by decide, by decide, by ring⟩, .five p hfar (by linarith)⟩
  | five p hle hlt' =>
      have hle' := hkeep 14 (by push_cast; linarith)
      push_cast at hle'
      have hnext : (10 : ℚ) ^ (p + 1) = 10 ^ p * 10 := zpow_add_one₀ (by norm_num) p
      rcases lt_or_ge y (15 / 2 * 10 ^ p) with hnear | hfar
      · exact ⟨1, 1, _, ⟨by decide, by decide, rfl⟩, .five p (by linarith) hnear⟩
      rcases lt_or_ge y (15 * 10 ^ p) with hone | htwo
      · exact ⟨2, 1, 10 ^ (p + 1), ⟨by decide, by decide, by rw [hnext]; ring⟩,
          .one (p + 1) (by linarith) (by linarith)⟩
      · exact ⟨4, 1, 2 * 10 ^ (p + 1), ⟨by decide, by decide, by rw [hnext]; ring⟩,
          .two (p + 1) (by linarith) (by linarith)⟩

theorem isWidened_widen (h : IsNear (partLength count d) v) : IsWidened count (widen count d) := by
  have hv := h.step_pos
  have hc := one_le_intervals count
  have hwidth := width_widen_lt h
  rw [← partLength_mul_intervals, ← partLength_mul_intervals] at hwidth
  have hlt : partLength count (widen count d) < partLength count d + 2 * v := by nlinarith
  obtain ⟨n, m, w, hfrac, hnear⟩ := h.exists_next (fun u ↦ le_partLength_widen h) hlt
  exact ⟨n, m, v, w, isAligned_widen h, hfrac, hnear⟩

namespace IsWidened

theorem widen (h : IsWidened count d) : IsWidened count (widen count d) := by
  obtain ⟨-, -, -, w, -, -, hnear⟩ := h
  exact isWidened_widen hnear

theorem widen_le (h : IsWidened count d) :
    (Charting.widen count d).1 ≤ d.1 ∧ d.2 ≤ (Charting.widen count d).2 := by
  obtain ⟨n, m, v, w, ha, hfrac, hnear⟩ := h
  obtain ⟨hlo, hhi, -⟩ := widen_of_isFraction ha hfrac hnear
  exact ⟨hlo, hhi⟩

theorem iterate_le (h : IsWidened count d) (k : ℕ) :
    ((Charting.widen count)^[k] d).1 ≤ d.1 ∧ d.2 ≤ ((Charting.widen count)^[k] d).2 := by
  induction k generalizing d with
  | zero => exact ⟨le_rfl, le_rfl⟩
  | succ k ih =>
      obtain ⟨hlo, hhi⟩ := h.widen_le
      obtain ⟨hlo', hhi'⟩ := ih h.widen
      exact ⟨hlo'.trans hlo, hhi.trans hhi'⟩

/-- What many rounds leave alone, one round leaves alone. -/
theorem isFixedPt (h : IsWidened count d) {k : ℕ}
    (hk : (Charting.widen count)^[k + 1] d = d) : IsFixedPt (Charting.widen count) d := by
  obtain ⟨hlo, hhi⟩ := h.widen_le
  obtain ⟨hlo', hhi'⟩ := h.widen.iterate_le k
  rw [← Function.iterate_succ_apply, hk] at hlo' hhi'
  exact Prod.ext (hlo.antisymm hlo') (hhi'.antisymm hhi)

theorem lt (h : IsWidened count d) : d.1 < d.2 := by
  obtain ⟨-, -, -, w, -, -, hnear⟩ := h
  have hpos : 0 < partLength count d := by linarith [hnear.bounds.1, hnear.step_pos]
  exact sub_pos.mp ((div_pos_iff_of_pos_right (intervals_pos count)).mp hpos)

theorem niceDomain_eq_self_iff (h : IsWidened count d) :
    niceDomain d.1 d.2 count = d ↔ IsFixedPt (Charting.widen count) d := by
  rw [niceDomain_eq_iterate h.lt]
  exact ⟨h.isFixedPt, fun hfixed ↦ Function.iterate_fixed hfixed _⟩

end IsWidened

theorem isWidened_niceDomain {min max : ℚ} (h : min < max) :
    IsWidened count (niceDomain min max count) := by
  obtain ⟨step, -, hnear⟩ := exists_near? (div_pos (sub_pos.mpr h) (intervals_pos count))
  have hfirst : IsWidened count (widen count (min, max)) := isWidened_widen hnear
  have hrounds (k : ℕ) : IsWidened count ((widen count)^[k] (widen count (min, max))) := by
    induction k with
    | zero => exact hfirst
    | succ k ih =>
        rw [Function.iterate_succ_apply']
        exact ih.widen
  rw [niceDomain_eq_iterate h]
  exact hrounds 9

/-! ## Fixed points -/

/-- An interval goes from one multiple of its own nice step to the next one. -/
def IsOneStep (d : ℚ × ℚ) : Prop :=
  ∃ step, NiceStep.near? (d.2 - d.1) = some step ∧
    ∃ k : ℤ, d = (k * step.value, (k + 1) * step.value)

/-- One step has no multiples inside, and zero is a multiple. -/
theorem IsOneStep.not_zero_mem (h : IsOneStep d) (hlo : d.1 < 0) (hhi : 0 < d.2) : False := by
  obtain ⟨step, -, k, rfl⟩ := h
  have hv : 0 < step.value := by linarith
  have hneg : (k : ℚ) < 0 := neg_of_mul_neg_left hlo hv.le
  have hpos : (0 : ℚ) < k + 1 := pos_of_mul_pos_left hhi hv.le
  have hneg' : k < 0 := by exact_mod_cast hneg
  have hpos' : 0 < k + 1 := by exact_mod_cast hpos
  omega

theorem isFixedPt_widen_one_iff (h : d.1 < d.2) : IsFixedPt (widen 1) d ↔ IsOneStep d := by
  have hpart : partLength 1 d = d.2 - d.1 := div_one _
  obtain ⟨step, hstep, hnear⟩ := exists_near? (sub_pos.mpr h)
  have hv := hnear.step_pos
  rw [← hpart] at hnear
  constructor
  · intro hfixed
    obtain ⟨a, b, rfl⟩ := hfixed ▸ isAligned_widen hnear
    obtain ⟨hlower, hupper⟩ := hnear.bounds
    rw [hpart, ← sub_mul] at hlower hupper
    have hlower' : (0 : ℚ) < b - a := pos_of_mul_pos_left (by linarith) hv.le
    have hupper' : (b - a : ℚ) < 2 := lt_of_mul_lt_mul_right (by linarith) hv.le
    have hlower'' : 0 < b - a := by exact_mod_cast hlower'
    have hupper'' : b - a < 2 := by exact_mod_cast hupper'
    obtain rfl : b = a + 1 := by omega
    exact ⟨step, hstep, a, by push_cast; rfl⟩
  · rintro ⟨step', hstep', k, hk⟩
    obtain rfl := Option.some.inj (hstep.symm.trans hstep')
    exact isFixedPt_widen ⟨k, k + 1, by rw [hk]; push_cast; rfl⟩ hnear

/-- With a single part an interval around zero never settles. -/
theorem IsWidened.niceDomain_ne_self (h : IsWidened 1 d) (hlo : d.1 < 0) (hhi : 0 < d.2) :
    niceDomain d.1 d.2 1 ≠ d := by
  rw [Ne, h.niceDomain_eq_self_iff, isFixedPt_widen_one_iff h.lt]
  exact fun hone ↦ hone.not_zero_mem hlo hhi

/-- The nice domain of an interval is its own nice domain with two parts or more, and with a single
part only if it is one step long. -/
theorem niceDomain_niceDomain_iff {min max : ℚ} (hlt : min < max) (hcount : 1 ≤ count)
    (h : niceDomain min max count = d) :
    niceDomain d.1 d.2 count = d ↔ 2 ≤ count ∨ IsOneStep d := by
  have hwidened : IsWidened count d := h ▸ isWidened_niceDomain hlt
  rw [hwidened.niceDomain_eq_self_iff]
  rcases Nat.lt_or_ge count 2 with hone | htwo
  · obtain rfl : count = 1 := by omega
    rw [isFixedPt_widen_one_iff hwidened.lt]
    simp
  · have hthree := isFixedPt_widen_iterate_three htwo (min, max)
    have hrounds : (widen count)^[niceRounds] (min, max) = (widen count)^[3] (min, max) := by
      exact Function.iterate_fixed hthree 7
    rw [niceDomain_eq_iterate hlt, hrounds] at h
    exact iff_of_true (h ▸ hthree) (.inl htwo)

theorem niceDomain_niceDomain_iff_heights :
    niceDomain (3.2 : ℚ) 7.8 5 = (3, 8) ∧
      (niceDomain (3 : ℚ) 8 5 = (3, 8) ↔ 2 ≤ 5 ∨ IsOneStep (3, 8)) :=
  have hnice : niceDomain (3.2 : ℚ) 7.8 5 = (3, 8) := by decide +kernel
  ⟨hnice, niceDomain_niceDomain_iff (by norm_num) (by decide) hnice⟩

/-- The interval from minus one to one goes to two thousand on either side, and on to five
million. -/
theorem not_forall_niceDomain_niceDomain :
    ¬ ∀ (min max : ℚ) (count : Nat) (d : ℚ × ℚ), min < max → 1 ≤ count →
      niceDomain min max count = d → niceDomain d.1 d.2 count = d := by
  intro h
  have hone : niceDomain (-1 : ℚ) 1 1 = (-2000, 2000) := by decide +kernel
  have htwo := h _ _ _ _ (by norm_num) le_rfl hone
  revert htwo
  decide +kernel

end Charting
