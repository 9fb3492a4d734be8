import Charting.Proofs.Numeric.Numerals
import Charting.Proofs.Scale.NiceSteps
import Charting.Scale.Basic

/-!
# Labels of numbers

The ticks of an interval of numbers are multiples of a nice step.  If the step is longer than the
tolerance of `decimalsForStep`, a label has all decimals that its tick has, and reads as the tick
(`read?_tickLabel_of_mem`), so that different ticks have different labels.
-/

namespace Charting

/-! ## Decimals -/

/-- A nice step is one, two or five times a power of ten. -/
theorem IsNear.exists_eq {x v : ℚ} (h : IsNear x v) :
    ∃ (f : ℕ) (p : ℤ), 1 ≤ f ∧ f ≤ 5 ∧ v = f * 10 ^ p := by
  cases h with
  | one p => exact ⟨1, p, by simp, by simp, by simp⟩
  | two p => exact ⟨2, p, by simp, by simp, by simp⟩
  | five p => exact ⟨5, p, by simp, by simp, by simp⟩

/-- What is at most a half is as far from every integer as from zero, or farther. -/
theorem le_abs_sub_round {s : ℚ} (hpos : 0 < s) (hhalf : s ≤ 1 / 2) :
    s ≤ |s - roundHalfAway s| := by
  rcases lt_or_ge 0 (roundHalfAway s) with hround | hround
  · have hone : (1 : ℚ) ≤ roundHalfAway s := by exact_mod_cast hround
    rw [abs_of_nonpos (by linarith)]
    linarith
  · have hzero : (roundHalfAway s : ℚ) ≤ 0 := by exact_mod_cast hround
    rw [abs_of_nonneg (by linarith)]
    linarith

theorem roundHalfAway_intCast (k : ℤ) : (roundHalfAway (k : ℚ) : ℚ) = k := by
  have h := abs_roundHalfAway_sub_le_abs (k : ℚ) k
  rwa [sub_self, abs_zero, abs_nonpos_iff, sub_eq_zero] at h

theorem decimalsFrom_natCast (fuel d f : ℕ) : decimalsFrom fuel d (f : ℚ) = d := by
  have hround : Scalar.round (f : ℚ) = (f : ℚ) := roundHalfAway_intCast f
  have hmax : (0 : ℚ) ≤ 1e-9 * max (f : ℚ) 1.0 := by positivity
  cases fuel with
  | zero => rfl
  | succ fuel =>
      rw [decimalsFrom, hround, Exact.max_eq, Exact.abs_eq, sub_self, abs_zero, if_neg hmax.not_gt]

/-- Decimals are counted until the factor stands in front of the point. -/
theorem decimalsFrom_div {f : ℕ} (hf : 1 ≤ f) (hf' : f ≤ 5) {j fuel : ℕ} (hfuel : j ≤ fuel) (d : ℕ)
    (hnoise : 1e-9 < (f / 10 ^ j : ℚ)) : decimalsFrom fuel d (f / 10 ^ j : ℚ) = d + j := by
  induction j generalizing fuel d with
  | zero => rw [pow_zero, div_one, decimalsFrom_natCast, Nat.add_zero]
  | succ j ih =>
      obtain ⟨fuel, rfl⟩ := Nat.exists_eq_succ_of_ne_zero (show fuel ≠ 0 by omega)
      have hpos : (0 : ℚ) < f / 10 ^ (j + 1) := by positivity
      have hpow : (1 : ℚ) ≤ 10 ^ j := one_le_pow₀ (by norm_num)
      have hhalf : (f / 10 ^ (j + 1) : ℚ) ≤ 1 / 2 := by
        have hfive : (f : ℚ) ≤ 5 := by exact_mod_cast hf'
        rw [pow_succ, div_le_div_iff₀ (by positivity) (by norm_num)]
        linarith
      have hmax : Scalar.max (f / 10 ^ (j + 1) : ℚ) 1.0 = 1 := by
        rw [Exact.max_eq]
        norm_num
        linarith
      have hten : (f / 10 ^ (j + 1) * 10.0 : ℚ) = f / 10 ^ j := by
        rw [pow_succ]
        field_simp
        norm_num
      have hround : Scalar.round (f / 10 ^ (j + 1) : ℚ) = roundHalfAway (f / 10 ^ (j + 1) : ℚ) := rfl
      rw [decimalsFrom, hmax, Exact.abs_eq, hround, mul_one, if_pos, hten, ih]
      · omega
      · omega
      · rw [← hten]
        norm_num at hnoise ⊢
        linarith
      · exact hnoise.trans_le (le_abs_sub_round hpos hhalf)

theorem decimalsForStep_eq {f : ℕ} {p : ℤ} (hf : 1 ≤ f) (hf' : f ≤ 5)
    (hnoise : 1e-9 < (f * 10 ^ p : ℚ)) : decimalsForStep (f * 10 ^ p : ℚ) = (-p).toNat := by
  have hfactor : (1 : ℚ) ≤ f := by exact_mod_cast hf
  have hpow : (0 : ℚ) < 10 ^ p := by positivity
  have hpos : (0 : ℚ) < f * 10 ^ p := by positivity
  have habs : Scalar.abs (f * 10 ^ p : ℚ) = f * 10 ^ p := by rw [Exact.abs_eq, abs_of_pos hpos]
  rw [decimalsForStep, habs]
  rcases le_or_gt 0 p with hp | hp
  · have hone : (1 : ℚ) ≤ 10 ^ p := one_le_zpow₀ (by norm_num) hp
    have hstep : (1.0 : ℚ) ≤ f * 10 ^ p := by
      norm_num
      nlinarith
    rw [if_pos (by simp [hstep]), Int.toNat_of_nonpos (by omega)]
  · obtain ⟨j, rfl⟩ : ∃ j : ℕ, p = -(j : ℤ) := ⟨p.natAbs, by omega⟩
    have hfive : (f : ℚ) ≤ 5 := by exact_mod_cast hf'
    have hpow' : (0 : ℚ) < 10 ^ j := by positivity
    rw [zpow_neg, zpow_natCast, ← div_eq_mul_inv] at hnoise hpos ⊢
    rw [neg_neg, Int.toNat_natCast]
    have hten : (10 : ℚ) ≤ 10 ^ j := by
      exact_mod_cast Nat.pow_le_pow_right (n := 10) (by decide) (show 1 ≤ j by omega)
    have hlt : (f / 10 ^ j : ℚ) < 1 := by
      rw [div_lt_one hpow']
      linarith
    have hfuel : j ≤ maxDecimals := by
      have hbound : (10 : ℚ) ^ j < 10 ^ 12 := by
        rw [lt_div_iff₀ hpow'] at hnoise
        norm_num at hnoise ⊢
        linarith
      exact (Nat.pow_lt_pow_iff_right (by decide : 1 < 10)).mp (by exact_mod_cast hbound) |>.le
    have hproper : ¬(!Scalar.isFinite (f / 10 ^ j : ℚ) || (f / 10 ^ j : ℚ) == 0.0 ||
        decide ((1.0 : ℚ) ≤ f / 10 ^ j)) = true := by
      have hone : (1.0 : ℚ) = 1 := by norm_num
      rw [Exact.zero_eq, hone]
      simp [Scalar.isFinite, hpos.ne', hlt]
    rw [if_neg hproper, decimalsFrom_div hf hf' hfuel 0 hnoise, Nat.zero_add]

/-! ## One label -/

namespace Exact

theorem invPow10_eq (n : Nat) : (Scalar.invPow10 n : ℚ) = (10 ^ n)⁻¹ := by
  have h : (Scalar.invPow10 n : ℚ) = mkRat 1 (10 ^ n) := Rat.ofScientific_true_def
  rw [h, Rat.mkRat_eq_div]
  simp

end Exact

/-- The label of a number with no more places than are written reads as the number. -/
theorem read?_tickLabel {x step : ℚ} {n : ℤ} (h : x * 10 ^ decimalsForStep step = n) :
    Scalar.read? (tickLabel x step).toList = some x := by
  have hpow : (0 : ℚ) < 10 ^ decimalsForStep step := by positivity
  have hsmall : (if Scalar.abs x < 0.5 * Scalar.invPow10 (decimalsForStep step) then Scalar.ofInt 0
      else x) = x := by
    split
    case isTrue hlt =>
      -- An integer below one half is zero.
      rw [Exact.abs_eq, Exact.invPow10_eq, ← div_eq_mul_inv, lt_div_iff₀ hpow, ← abs_of_pos hpow,
        ← abs_mul, h] at hlt
      have hzero : |n| < 1 := by
        have : (|n| : ℚ) < 1 := hlt.trans (by norm_num)
        exact_mod_cast this
      rw [Int.abs_lt_one_iff.mp hzero, Int.cast_zero, mul_eq_zero] at h
      exact (h.resolve_right hpow.ne').symm
    case isFalse => rfl
  have hfinite : ¬(!Scalar.isFinite x) = true := by simp [Scalar.isFinite]
  rw [tickLabel, if_neg hfinite]
  dsimp only
  rw [hsmall]
  exact Exact.read?_fixedPlaces h

/-! ## The ticks of an interval -/

/-- So many multiples of a step, one after the other. -/
def multiples (v : ℚ) (first : ℤ) (n : ℕ) : List ℚ :=
  (List.range n).map fun i : ℕ ↦ ((first + i : ℤ) : ℚ) * v

theorem multiples_succ (v : ℚ) (first : ℤ) (n : ℕ) :
    multiples v first (n + 1) = first * v :: multiples v (first + 1) n := by
  have hshift (i : ℕ) : first + ((i + 1 : ℕ) : ℤ) = first + 1 + i := by push_cast; ring
  rw [multiples, multiples, List.range_succ_eq_map, List.map_cons, List.map_map, Nat.cast_zero, add_zero]
  simp only [Function.comp_def, Nat.succ_eq_add_one, hshift]

/-- The ticks of an interval are none, one, or multiples of a nice step. -/
theorem linearTicks_eq (lo hi : ℚ) (count : Nat) :
    (linearTicks lo hi count).length ≤ 1 ∨
      ∃ x v first n, IsNear x v ∧ linearTicks lo hi count = multiples v first n := by
  have hends : (if lo ≤ hi then (lo, hi) else (hi, lo)).1 ≤
      (if lo ≤ hi then (lo, hi) else (hi, lo)).2 := by
    split
    case isTrue h => exact h
    case isFalse h => exact (not_le.mp h).le
  unfold linearTicks
  generalize (if lo ≤ hi then (lo, hi) else (hi, lo)) = ends at *
  obtain ⟨lo, hi⟩ := ends
  dsimp only at hends ⊢
  split
  case isTrue => exact .inl (by simp)
  case isFalse =>
    split
    case isTrue => exact .inl (by simp)
    case isFalse hne =>
      split
      case h_1 hnone =>
        have hlt : lo < hi := hends.lt_of_ne (by simpa using hne)
        have hpos : 0 < (hi - lo) / (intervals count : ℚ) :=
          div_pos (sub_pos.mpr hlt) (intervals_pos count)
        obtain ⟨step, hstep, -⟩ := exists_near? hpos
        rw [hnone] at hstep
        cases hstep
      case h_2 step hstep =>
        obtain ⟨first, hfirst⟩ := exists_snap_eq (step.quotient lo) true
        have htick (i : ℕ) : step.times (first + Scalar.ofNat i) = (first + i : ℤ) * step.value := by
          rw [step.times_eq, Int.cast_add]
          rfl
        rw [hfirst]
        exact .inr ⟨_, _, first, _, isNear_of_near? hstep, List.map_congr_left fun i _ ↦ htick i⟩

/-- Neighbouring multiples are one step apart. -/
theorem gaps_multiples {v : ℚ} (hv : 0 < v) (first : ℤ) (n : ℕ) :
    gaps (multiples v first (n + 1)) = List.replicate n v := by
  induction n generalizing first with
  | zero => rfl
  | succ n ih =>
      have hgap : Scalar.abs (((first + 1 : ℤ) : ℚ) * v - first * v) = v := by
        rw [Exact.abs_eq, Int.cast_add, Int.cast_one, ← sub_mul, add_sub_cancel_left, one_mul,
          abs_of_pos hv]
      rw [multiples_succ, multiples_succ, gaps, ← multiples_succ, ih, hgap, List.replicate_succ]

/-- The step of the labels is the step of the ticks if there are two of them. -/
theorem tickStep_multiples {v : ℚ} (hv : 0 < v) (first : ℤ) (n : ℕ) :
    tickStep (multiples v first (n + 2)) = v := by
  have hfold : (List.replicate n v).foldl Scalar.min v = v := by
    induction n with
    | zero => rfl
    | succ n ih => simpa [List.replicate_succ, Scalar.min] using ih
  rw [tickStep, gaps_multiples hv, List.replicate_succ]
  dsimp only
  rw [hfold]
  rfl

/-- If there are two ticks, and they are farther apart than the tolerance, then every label reads as
its tick. -/
theorem read?_tickLabel_of_mem {lo hi : ℚ} {count : ℕ} {x : ℚ}
    (hfar : (linearTicks lo hi count).Pairwise fun x y ↦ 1e-9 < y - x)
    (htwo : 1 < (linearTicks lo hi count).length) (hx : x ∈ linearTicks lo hi count) :
    Scalar.read? (tickLabel x (tickStep (linearTicks lo hi count))).toList = some x := by
  obtain hone | ⟨z, v, first, n, hnear, hticks⟩ := linearTicks_eq lo hi count
  · omega
  rw [hticks] at hfar htwo hx ⊢
  have hv := hnear.step_pos
  obtain ⟨n, rfl⟩ : ∃ k, n = k + 2 := ⟨n - 2, by simp [multiples] at htwo; omega⟩
  obtain ⟨f, p, hf, hf', rfl⟩ := hnear.exists_eq
  have hnoise : 1e-9 < (f * 10 ^ p : ℚ) := by
    rw [multiples_succ, multiples_succ, List.pairwise_cons] at hfar
    have hgap := hfar.1 _ List.mem_cons_self
    push_cast at hgap
    linarith
  obtain ⟨i, -, rfl⟩ := List.mem_map.mp hx
  rw [tickStep_multiples hv]
  refine read?_tickLabel (n := (first + i) * f * 10 ^ p.toNat) ?_
  rw [decimalsForStep_eq hf hf' hnoise]
  have hpow : (10 : ℚ) ^ p * 10 ^ (-p).toNat = 10 ^ p.toNat := by
    rw [← zpow_natCast, ← zpow_natCast, ← zpow_add₀ (by norm_num)]
    congr 1
    omega
  push_cast
  rw [← hpow]
  ring

/-- If neighbouring ticks are farther apart than the tolerance, then different ticks have different
labels. -/
theorem nodup_label_numberTicks {lo hi : ℚ} {count : ℕ}
    (hfar : (linearTicks lo hi count).Pairwise fun x y ↦ 1e-9 < y - x) :
    ((Scale.numberTicks lo hi count).map ScaleTick.label).Nodup := by
  rw [Scale.numberTicks, List.map_map]
  rcases Nat.lt_or_ge 1 (linearTicks lo hi count).length with htwo | hone
  · have hnodup : (linearTicks lo hi count).Nodup := hfar.imp fun hlt heq ↦ by
      rw [heq, sub_self] at hlt
      exact absurd hlt (by norm_num)
    refine hnodup.map_on fun x hx y hy hlabel ↦ ?_
    have hread := read?_tickLabel_of_mem hfar htwo hx
    have hlabel' : tickLabel x (tickStep (linearTicks lo hi count)) =
        tickLabel y (tickStep (linearTicks lo hi count)) := hlabel
    rw [hlabel', read?_tickLabel_of_mem hfar htwo hy] at hread
    exact (Option.some.inj hread).symm
  · match hlist : linearTicks lo hi count with
    | [] => simp
    | [x] => simp
    | x :: y :: rest => simp [hlist] at hone

end Charting
