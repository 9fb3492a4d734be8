import Mathlib.Data.Set.Card
import Mathlib.Order.Interval.Set.Infinite
import Mathlib.Data.Int.Interval
import Charting.Proofs.Scale.NumberLabels

/-!
# Ticks of numbers

The ticks of an interval are the multiples of its step that lie inside, but for noise, cut after ten
thousand and one (`linearTicks_eq_multiples`).  The step can be longer than the interval if there is
a single part, so that no multiple lies inside; then there is one tick, beyond the end
(`linearTicks_inside_iff`).
-/

namespace Charting

/-! ## The nearest integers but for noise -/

/-- Rounding up goes to the first integer that is not below, but for noise. -/
theorem exists_snap_true (q : ℚ) :
    ∃ k : ℤ, snap q true = k ∧ IsLeast {j : ℤ | q - noise < j} k := by
  have hnoise := noise_pos
  have hsmall := noise_lt
  refine ⟨_, snap_eq q true, ?_⟩
  split_ifs with hnear hup
  · obtain ⟨hbelow, habove⟩ := abs_lt.mp hnear
    refine ⟨show q - noise < (roundHalfAway q : ℚ) by linarith, fun j hj ↦ ?_⟩
    have hj : q - noise < (j : ℚ) := hj
    have hlt : (roundHalfAway q : ℚ) < (j + 1 : ℤ) := by
      push_cast
      linarith
    exact Int.lt_add_one_iff.mp (by exact_mod_cast hlt)
  · refine ⟨show q - noise < (⌈q⌉ : ℚ) by linarith [Int.le_ceil q], fun j hj ↦ Int.ceil_le.mpr ?_⟩
    have hj : q - noise < (j : ℚ) := hj
    -- an integer just below would be the nearest one
    by_contra hlt
    have hclose : |(j : ℚ) - q| < noise := abs_lt.mpr ⟨by linarith, by linarith⟩
    rw [abs_sub_comm] at hnear
    exact hnear ((abs_roundHalfAway_sub_le_abs q j).trans_lt hclose)
  · exact absurd rfl hup

/-- Rounding down goes to the last integer that is not above, but for noise. -/
theorem exists_snap_false (q : ℚ) :
    ∃ k : ℤ, snap q false = k ∧ IsGreatest {j : ℤ | j < q + noise} k := by
  have hnoise := noise_pos
  have hsmall := noise_lt
  refine ⟨_, snap_eq q false, ?_⟩
  split_ifs with hnear hup
  · obtain ⟨hbelow, habove⟩ := abs_lt.mp hnear
    refine ⟨show (roundHalfAway q : ℚ) < q + noise by linarith, fun j hj ↦ ?_⟩
    have hj : (j : ℚ) < q + noise := hj
    have hlt : (j : ℚ) < (roundHalfAway q + 1 : ℤ) := by
      push_cast
      linarith
    exact Int.lt_add_one_iff.mp (by exact_mod_cast hlt)
  · cases hup
  · refine ⟨show (⌊q⌋ : ℚ) < q + noise by linarith [Int.floor_le q], fun j hj ↦ Int.le_floor.mpr ?_⟩
    have hj : (j : ℚ) < q + noise := hj
    by_contra hlt
    have hclose : |(j : ℚ) - q| < noise := abs_lt.mpr ⟨by linarith, by linarith⟩
    rw [abs_sub_comm] at hnear
    exact hnear ((abs_roundHalfAway_sub_le_abs q j).trans_lt hclose)

/-! ## Multiples of a step -/

/-- A multiple of a step lies in an interval, but for noise. -/
def IsInside (v lo hi : ℚ) (k : ℤ) : Prop := lo - noise * v < k * v ∧ k * v ≤ hi + noise * v

variable {v lo hi : ℚ} {count : ℕ}

theorem mem_multiples_iff (hv : 0 < v) {first k : ℤ} {n : ℕ} :
    (k * v : ℚ) ∈ multiples v first n ↔ first ≤ k ∧ k < first + n := by
  rw [multiples, List.mem_map]
  constructor
  · rintro ⟨i, hi, heq⟩
    have hk : first + i = k := by exact_mod_cast mul_right_cancel₀ hv.ne' heq
    have := List.mem_range.mp hi
    omega
  · rintro ⟨hle, hlt⟩
    have hcast : ((k - first).toNat : ℤ) = k - first := Int.toNat_of_nonneg (by omega)
    exact ⟨(k - first).toNat, List.mem_range.mpr (by omega), by rw [hcast, add_sub_cancel]⟩

/-- Two parts of an interval are together longer than a step, so that a multiple lies inside. -/
theorem exists_isInside (hlt : lo < hi) (hcount : 2 ≤ count)
    (h : IsNear ((hi - lo) / (count : ℚ)) v) : ∃ k, IsInside v lo hi k := by
  have hv := h.step_pos
  have hnoise := mul_pos noise_pos hv
  have htwo : (2 : ℚ) ≤ count := by exact_mod_cast hcount
  have hlong : v < hi - lo := by
    have hparts := h.bounds.1
    rw [le_div_iff₀ (by linarith)] at hparts
    nlinarith
  have hle := mul_le_mul_of_nonneg_right (Int.le_ceil (lo / v)) hv.le
  have hceil := mul_lt_mul_of_pos_right (Int.ceil_lt_add_one (lo / v)) hv
  rw [div_mul_cancel₀ _ hv.ne'] at hle
  rw [add_mul, div_mul_cancel₀ _ hv.ne'] at hceil
  exact ⟨⌈lo / v⌉, by linarith, by linarith⟩

/-- The first and the last multiple that are counted as inside an interval.  If there is none
inside, the first one comes after the last one. -/
structure AreEnds (v lo hi : ℚ) (first last : ℤ) : Prop where
  /-- The step has a length. -/
  pos : 0 < v
  /-- The first multiple that is not below. -/
  isLeast : IsLeast {k : ℤ | lo - noise * v < k * v} first
  /-- The last multiple that is not above. -/
  isGreatest : IsGreatest {k : ℤ | k * v < hi + noise * v} last

/-- So many multiples are ticks at most, beside the first one. -/
def maxGaps : ℤ := 10000

namespace AreEnds

variable {first last : ℤ} (h : AreEnds v lo hi first last)

include h

theorem first_le_iff (k : ℤ) : first ≤ k ↔ lo - noise * v < k * v := by
  refine ⟨fun hk ↦ ?_, fun hk ↦ h.isLeast.2 hk⟩
  exact lt_of_lt_of_le h.isLeast.1 (mul_le_mul_of_nonneg_right (by exact_mod_cast hk) h.pos.le)

/-- The multiples that are counted lie inside if any multiple does. -/
theorem forall_isInside_iff :
    (∀ x ∈ multiples v first ((min (last - first) maxGaps).toNat + 1),
        lo - noise * v ≤ x ∧ x ≤ hi + noise * v) ↔ ∃ k, IsInside v lo hi k := by
  constructor
  · intro hall
    exact ⟨first, h.isLeast.1, (hall _ ((mem_multiples_iff h.pos).mpr ⟨le_rfl, by omega⟩)).2⟩
  · rintro ⟨k, hk, hk'⟩ x hx
    obtain ⟨i, hi, rfl⟩ := List.mem_map.mp hx
    have hi := List.mem_range.mp hi
    refine ⟨((h.first_le_iff _).mp (by omega)).le, ?_⟩
    -- a tick is the first multiple or comes before the last one
    rcases Nat.eq_zero_or_pos i with rfl | hlater
    · have hle : first + (0 : ℕ) ≤ k := by
        rw [Nat.cast_zero, add_zero]
        exact (h.first_le_iff k).mpr hk
      exact (mul_le_mul_of_nonneg_right (by exact_mod_cast hle) h.pos.le).trans hk'
    · have hle : first + i ≤ last := by omega
      exact (mul_le_mul_of_nonneg_right (by exact_mod_cast hle) h.pos.le).trans h.isGreatest.1.le

/-- No multiple in the interval is left out if there are not too many. -/
theorem forall_mem_multiples_iff :
    (∀ k : ℤ, lo ≤ k * v → k * v ≤ hi →
        k * v ∈ multiples v first ((min (last - first) maxGaps).toNat + 1)) ↔
      {k : ℤ | lo - noise * v < k * v ∧ k * v ≤ hi}.ncard ≤ maxGaps + 1 := by
  have hnoise := mul_pos noise_pos h.pos
  have hfloor (k : ℤ) : k * v ≤ hi ↔ k ≤ ⌊hi / v⌋ := by rw [Int.le_floor, le_div_iff₀ h.pos]
  have hset : {k : ℤ | lo - noise * v < k * v ∧ k * v ≤ hi} = Set.Icc first ⌊hi / v⌋ := by
    ext k
    exact and_congr (h.first_le_iff k).symm (hfloor k)
  have hlast : ⌊hi / v⌋ ≤ last := by
    refine h.isGreatest.2 (show (⌊hi / v⌋ : ℚ) * v < hi + noise * v from ?_)
    linarith [(hfloor _).mpr le_rfl]
  rw [hset, ← Finset.coe_Icc, Set.ncard_coe_finset, Int.card_Icc, maxGaps]
  simp only [mem_multiples_iff h.pos]
  constructor
  · intro hall
    by_contra hmany
    -- the last multiple in the interval is cut off
    have hinside : lo ≤ (⌊hi / v⌋ : ℤ) * v := by
      have hlater : (first + 1 : ℚ) ≤ ⌊hi / v⌋ := by
        exact_mod_cast (by omega : first + 1 ≤ ⌊hi / v⌋)
      have hfirst : lo - noise * v < first * v := h.isLeast.1
      nlinarith [noise_lt, h.pos]
    have := hall _ hinside ((hfloor _).mpr le_rfl)
    omega
  · intro hfew k hk hk'
    have hle := (h.first_le_iff k).mpr (by linarith)
    have hle' := (hfloor k).mp hk'
    exact ⟨hle, by omega⟩

end AreEnds

/-! ## The ticks -/

/-- The number of gaps is cut at ten thousand, and is never negative. -/
theorem gapCount_eq (k : ℤ) :
    (Scalar.toInt64 (Scalar.round (Scalar.clamp (k : ℚ) 0.0 10000.0))).toNat =
      (min k maxGaps).toNat := by
  have hclamp : Scalar.clamp (k : ℚ) 0.0 10000.0 = ((max 0 (min k 10000) : ℤ) : ℚ) := by
    rw [Scalar.clamp, Exact.zero_eq]
    norm_num only
    push_cast
    split_ifs with hneg hlarge
    · rw [max_eq_left ((min_le_left _ _).trans hneg.le)]
    · rw [min_eq_right hlarge.le, max_eq_right (by norm_num)]
    · rw [min_eq_left (not_lt.mp hlarge), max_eq_right (not_lt.mp hneg)]
  have hround (j : ℤ) : Scalar.round (j : ℚ) = (j : ℚ) := roundHalfAway_intCast j
  have hcut (j : ℤ) : Scalar.toInt64 (j : ℚ) = clampInt64 j := by
    change clampInt64 (truncate (j : ℚ)) = _
    simp [truncate]
  rw [hclamp, hround, hcut, clampInt64, minInt64, maxInt64, maxGaps]
  split_ifs <;> omega

/-- The ticks go from the first multiple that is not below the interval to the last one that is not
above it, without the last ones if there are too many. -/
theorem linearTicks_eq_multiples (hlt : lo < hi) (hcount : 1 ≤ count) :
    ∃ (step : NiceStep ℚ) (first last : ℤ), NiceStep.near? ((hi - lo) / (count : ℚ)) = some step ∧
      AreEnds step.value lo hi first last ∧
      linearTicks lo hi count =
        multiples step.value first ((min (last - first) maxGaps).toNat + 1) := by
  have hparts : (intervals count : ℚ) = count := by rw [intervals_eq, max_eq_left hcount]
  have hpos : 0 < (hi - lo) / (count : ℚ) := by
    rw [← hparts]
    exact div_pos (sub_pos.mpr hlt) (intervals_pos count)
  obtain ⟨step, hstep, hnear⟩ := exists_near? hpos
  have hv := hnear.step_pos
  obtain ⟨first, hfirst, hleast⟩ := exists_snap_true (step.quotient lo)
  obtain ⟨last, hlast, hgreatest⟩ := exists_snap_false (step.quotient hi)
  rw [step.quotient_eq] at hleast hgreatest
  have hlower (k : ℤ) : lo / step.value - noise < k ↔ lo - noise * step.value < k * step.value := by
    rw [sub_lt_iff_lt_add, sub_lt_iff_lt_add, ← add_mul, div_lt_iff₀ hv]
  have hupper (k : ℤ) : k < hi / step.value + noise ↔ k * step.value < hi + noise * step.value := by
    rw [← sub_lt_iff_lt_add, ← sub_lt_iff_lt_add, ← sub_mul, lt_div_iff₀ hv]
  simp only [hlower] at hleast
  simp only [hupper] at hgreatest
  refine ⟨step, first, last, hstep, ⟨hv, hleast, hgreatest⟩, ?_⟩
  have hproper : ¬(decide (count = 0) || !Scalar.isFinite lo || !Scalar.isFinite hi) = true := by
    simp [Scalar.isFinite]
    omega
  have htick (i : ℕ) : step.times (first + Scalar.ofNat i) = (first + i : ℤ) * step.value := by
    rw [step.times_eq, Int.cast_add]
    rfl
  have hgap : (last : ℚ) - first = (last - first : ℤ) := by push_cast; rfl
  rw [linearTicks, if_pos hlt.le]
  dsimp only
  rw [if_neg hproper, if_neg (by simpa using hlt.ne), hparts, hstep]
  dsimp only
  rw [hfirst, hlast, hgap, gapCount_eq]
  exact List.map_congr_left fun i _ ↦ htick i

/-- The ticks of an interval are consecutive multiples of its step.  They lie in the interval, but
for noise, exactly if a multiple does, which is certain with two parts or more.  All multiples in
the interval are ticks exactly if at most ten thousand and one are counted, those included that lie
before the interval by noise only. -/
theorem linearTicks_inside_iff (hlt : lo < hi) (hcount : 1 ≤ count) :
    ∃ (step : NiceStep ℚ) (first : ℤ) (n : ℕ),
      NiceStep.near? ((hi - lo) / (count : ℚ)) = some step ∧ 0 < step.value ∧
      linearTicks lo hi count = multiples step.value first (n + 1) ∧
      ((∀ x ∈ linearTicks lo hi count,
          lo - 1e-9 * step.value ≤ x ∧ x ≤ hi + 1e-9 * step.value) ↔
        ∃ k, IsInside step.value lo hi k) ∧
      (2 ≤ count → ∃ k, IsInside step.value lo hi k) ∧
      ((∀ k : ℤ, lo ≤ k * step.value → k * step.value ≤ hi →
          k * step.value ∈ linearTicks lo hi count) ↔
        {k : ℤ | lo - 1e-9 * step.value < k * step.value ∧ k * step.value ≤ hi}.ncard ≤ 10001) := by
  obtain ⟨step, first, last, hstep, hends, hticks⟩ := linearTicks_eq_multiples hlt hcount
  have hinside := hends.forall_isInside_iff
  have hall := hends.forall_mem_multiples_iff
  rw [← hticks] at hinside hall
  refine ⟨step, first, _, hstep, hends.pos, hticks, hinside, fun htwo ↦ ?_, ?_⟩
  · exact exists_isInside hlt htwo (isNear_of_near? hstep)
  · rw [hall, noise, maxGaps]
    norm_cast

theorem linearTicks_inside_iff_heights :
    (3.2 : ℚ) < 7.8 ∧ 1 ≤ 5 ∧
    ∃ (step : NiceStep ℚ) (first : ℤ) (n : ℕ),
      NiceStep.near? (((7.8 : ℚ) - 3.2) / (5 : ℕ)) = some step ∧ 0 < step.value ∧
      linearTicks (3.2 : ℚ) 7.8 5 = multiples step.value first (n + 1) ∧
      ((∀ x ∈ linearTicks (3.2 : ℚ) 7.8 5,
          3.2 - 1e-9 * step.value ≤ x ∧ x ≤ 7.8 + 1e-9 * step.value) ↔
        ∃ k, IsInside step.value 3.2 7.8 k) ∧
      (2 ≤ 5 → ∃ k, IsInside step.value 3.2 7.8 k) ∧
      ((∀ k : ℤ, 3.2 ≤ k * step.value → k * step.value ≤ 7.8 →
          k * step.value ∈ linearTicks (3.2 : ℚ) 7.8 5) ↔
        {k : ℤ | 3.2 - 1e-9 * step.value < k * step.value ∧ k * step.value ≤ 7.8}.ncard ≤ 10001) :=
  ⟨by norm_num, by decide, linearTicks_inside_iff (by norm_num) (by decide)⟩

/-- The step of the interval from one to nine is ten, which is its tick. -/
theorem not_forall_linearTicks_inside :
    ¬ ∀ (lo hi : ℚ) (count : ℕ), lo < hi → 1 ≤ count →
      ∃ step, NiceStep.near? ((hi - lo) / (count : ℚ)) = some step ∧
        ∀ x ∈ linearTicks lo hi count,
          lo - 1e-9 * step.value ≤ x ∧ x ≤ hi + 1e-9 * step.value := by
  intro h
  obtain ⟨step, hstep, hinside⟩ := h 1 9 1 (by norm_num) le_rfl
  have hten : step.value = 10 ^ (1 : ℤ) :=
    (isNear_of_near? hstep).unique (.one 1 (by norm_num) (by norm_num))
  have hticks : linearTicks (1 : ℚ) 9 1 = [10] := by decide +kernel
  rw [hticks, hten] at hinside
  have hle := (hinside 10 (List.mem_singleton.mpr rfl)).2
  norm_num at hle

end Charting
