import Mathlib.Data.List.Chain
import Charting.Proofs.Time.Months

/-!
# Ticks of time

The ticks of a time axis follow one another by one step (`TimeStep.isChain_boundaries`).  Steps of
milliseconds lead from multiple to multiple (`TimeStep.dvd_of_mem_boundaries`), and steps of months
to later and later months (`TimeStep.monthsLater_of_boundaries`).
-/

namespace Charting

namespace TimeStep

variable {step : TimeStep} {lo hi t u ms n : Int}

/-! ## Steps that are chosen -/

/-- Steps lead to later times.  Those of milliseconds are two days long at most, and those of seconds
and minutes are whole seconds and minutes. -/
def IsRegular : TimeStep → Prop
  | millis ms =>
    0 < ms ∧ ms ≤ 2 * day ∧ (second ≤ ms → second ∣ ms) ∧ (minute ≤ ms → minute ∣ ms)
  | week => True
  | months n => 0 < n

theorem isRegular_of_mem_short (h : step ∈ short) : step.IsRegular := by
  simp only [short, List.mem_cons, List.not_mem_nil, or_false] at h
  rcases h with rfl | rfl | rfl | rfl | rfl | rfl | rfl | rfl | rfl | rfl | rfl | rfl | rfl | rfl |
    rfl | rfl | rfl | rfl | rfl | rfl | rfl | rfl | rfl | rfl | rfl | rfl | rfl <;>
    simp [IsRegular, second, minute, hour, day]

theorem pos_of_mem_roundYears {y : Int} (h : y ∈ roundYears) : 0 < y := by
  obtain ⟨k, -, h⟩ := List.mem_flatMap.mp h
  obtain ⟨m, hm, rfl⟩ := List.mem_map.mp h
  have hm' : 0 < m := by
    simp only [List.mem_cons, List.not_mem_nil, or_false] at hm
    omega
  exact Int.mul_pos hm' (by exact_mod_cast Nat.pow_pos (by decide : 0 < 10))

/-- Every step that is chosen for a span is regular. -/
theorem isRegular_atLeast (target : Int) : (atLeast target).IsRegular := by
  unfold atLeast
  split
  case h_1 step hstep => exact isRegular_of_mem_short (List.mem_of_find?_eq_some hstep)
  case h_2 =>
    have hpos : 0 < (roundYears.find? (target.tdiv (365 * day) ≤ ·)).getD 5000000000 := by
      cases hyear : roundYears.find? (target.tdiv (365 * day) ≤ ·) with
      | none => decide
      | some y => exact pos_of_mem_roundYears (List.mem_of_find?_eq_some hyear)
    exact lt_min (by omega) (by decide)

/-! ## From tick to tick -/

/-- A tick follows another one by one step, and later. -/
def Follows (step : TimeStep) (t u : Int) : Prop := t < u ∧ u = step.next t

theorem isChain_boundariesFrom (fuel : Nat) (t : Int) :
    (boundariesFrom step hi fuel t).IsChain step.Follows ∧
      ∀ u ∈ (boundariesFrom step hi fuel t).head?, u = t := by
  induction fuel generalizing t with
  | zero => simp [boundariesFrom]
  | succ fuel ih =>
      rw [boundariesFrom]
      split
      case isFalse => simp
      case isTrue =>
        refine ⟨?_, by simp⟩
        split
        case isFalse => exact .singleton t
        case isTrue hnext =>
          obtain ⟨hchain, hhead⟩ := ih (step.next t)
          refine List.isChain_cons.mpr ⟨fun u hu ↦ ?_, hchain⟩
          obtain rfl := hhead u hu
          exact ⟨hnext, rfl⟩

/-- Each tick follows the one before. -/
theorem isChain_boundaries : (step.boundaries lo hi).IsChain step.Follows :=
  (isChain_boundariesFrom maxTicks (step.ceil lo)).1

/-- What holds of the first tick, and goes on from a tick to the next one, holds of all ticks. -/
theorem boundaries_induction {P : Int → Prop} (hfirst : P (step.ceil lo))
    (hnext : ∀ t u, step.Follows t u → P t → P u) (hu : u ∈ step.boundaries lo hi) : P u := by
  refine isChain_boundaries.induction P _ hnext (fun hne ↦ ?_) u hu
  have hhead : ∀ u ∈ (boundariesFrom step hi maxTicks (step.ceil lo)).head?, u = step.ceil lo :=
    (isChain_boundariesFrom maxTicks (step.ceil lo)).2
  rwa [hhead _ (List.head_mem_head? hne)]

theorem pairwise_boundaries : (step.boundaries lo hi).Pairwise (· < ·) :=
  List.isChain_iff_pairwise.mp (isChain_boundaries.imp fun _ _ h ↦ h.1)

/-! ## Timestamps -/

/-- A timestamp of 64 bits. -/
def FitsInt64 (t : Int) : Prop := minInt64 ≤ t ∧ t ≤ maxInt64

instance : DecidablePred FitsInt64 := fun t ↦
  inferInstanceAs (Decidable (minInt64 ≤ t ∧ t ≤ maxInt64))

theorem wrapInt64_of_fitsInt64 (h : FitsInt64 t) : wrapInt64 t = t := by
  obtain ⟨hmin, hmax⟩ := h
  simp only [minInt64, maxInt64] at hmin hmax
  exact Int.bmod_eq_of_le (by omega) (by omega)

/-- Just below the range 64 bits start again at its upper end. -/
theorem wrapInt64_of_add (h : FitsInt64 (t + 18446744073709551616)) :
    wrapInt64 t = t + 18446744073709551616 := by
  rw [← wrapInt64_of_fitsInt64 h, wrapInt64, wrapInt64]
  exact (Int.add_mul_bmod_self_left t 18446744073709551616 1).symm

/-! ## Milliseconds -/

/-- A multiple of a step, unless the end of the range of 64 bits has been reached. -/
structure IsMultiple (ms t : Int) : Prop where
  /-- The range is not left at its lower end. -/
  min_le : minInt64 ≤ t
  /-- Below the upper end there are only multiples. -/
  dvd : t < maxInt64 → ms ∣ t

theorem IsMultiple.clamp_add (hdvd : ms ∣ t) (hmin : minInt64 ≤ t + ms) :
    IsMultiple ms (clampInt64 (t + ms)) := by
  unfold clampInt64
  split_ifs with hbelow habove
  · omega
  · exact ⟨by decide, fun h ↦ absurd h (lt_irrefl _)⟩
  · exact ⟨hmin, fun _ ↦ Int.dvd_add hdvd (Int.dvd_refl ms)⟩

/-- Below the first multiple of the range, rounding down goes on at the other end of the range, and
rounding up from there to its last timestamp. -/
theorem isMultiple_ceil (hstep : (millis ms).IsRegular) (hlo : FitsInt64 lo) :
    IsMultiple ms ((millis ms).ceil lo) := by
  have hdvd : ms ∣ lo / ms * ms := Int.dvd_mul_left _ _
  have hle := Int.ediv_mul_le lo hstep.1.ne'
  have hlt := Int.lt_ediv_add_one_mul_self lo hstep.1
  rw [add_one_mul] at hlt
  have hfloor : (millis ms).floor lo = wrapInt64 (lo / ms * ms) := rfl
  rw [ceil, hfloor]
  by_cases hmin : minInt64 ≤ lo / ms * ms
  · rw [wrapInt64_of_fitsInt64 ⟨hmin, hle.trans hlo.2⟩]
    split
    case isTrue h => exact ⟨hlo.1, fun _ ↦ h ▸ hdvd⟩
    case isFalse => exact IsMultiple.clamp_add hdvd (by omega)
  · have htwo := hstep.2.1
    obtain ⟨hlo, hlo'⟩ := hlo
    simp only [minInt64, maxInt64, day, hour, minute, second] at hlo hlo' hmin htwo
    have hmax : maxInt64 < lo / ms * ms + 18446744073709551616 + ms := by
      rw [maxInt64]
      omega
    rw [wrapInt64_of_add (by simp only [FitsInt64, minInt64, maxInt64]; omega), if_neg (by omega),
      next, clampInt64, if_neg (by simp only [minInt64]; omega), if_pos hmax]
    exact ⟨by decide, fun h ↦ absurd h (lt_irrefl _)⟩

theorem Follows.isMultiple (hms : 0 < ms) (h : (millis ms).Follows t u) (ht : IsMultiple ms t) :
    IsMultiple ms u := by
  obtain ⟨hlt, rfl⟩ := h
  obtain ⟨hmin, hdvd⟩ := ht
  have hnext : (millis ms).next t = clampInt64 (t + ms) := rfl
  rw [hnext] at hlt ⊢
  have hmax : clampInt64 (t + ms) ≤ maxInt64 := by
    unfold clampInt64
    split_ifs with hbelow
    · decide
    · exact le_rfl
    · omega
  exact IsMultiple.clamp_add (hdvd (hlt.trans_le hmax)) (by omega)

/-- The ticks of a step of milliseconds are multiples of the step, as far as 64 bits go. -/
theorem dvd_of_mem_boundaries (hstep : (millis ms).IsRegular) (hlo : FitsInt64 lo)
    (hu : u ∈ (millis ms).boundaries lo hi) (hlt : u < maxInt64) : ms ∣ u :=
  (boundaries_induction (isMultiple_ceil hstep hlo) (fun _ _ ↦ Follows.isMultiple hstep.1)
    hu).dvd hlt

/-! ## Months -/

/-- A time belongs to a month that is some positive number of steps later than that of another
one. -/
def MonthsLater (n t u : Int) : Prop :=
  ∃ i k, monthIndex? t = some i ∧ 0 < k ∧ monthIndex? u = some (i + k * n)

instance : Trans (MonthsLater n) (MonthsLater n) (MonthsLater n) where
  trans := by
    rintro t u v ⟨i, k, ht, hk, hu⟩ ⟨j, l, hu', hl, hv⟩
    obtain rfl := Option.some.inj (hu.symm.trans hu')
    exact ⟨i, k + l, ht, by omega, by rw [hv, add_mul, add_assoc]⟩

theorem Follows.monthsLater (h : (months n).Follows t u) : MonthsLater n t u := by
  obtain ⟨hlt, hu⟩ := h
  rw [next] at hu
  cases ht : monthIndex? t with
  | none =>
      rw [ht] at hu
      exact absurd hu hlt.ne'
  | some i =>
      rw [ht, Option.bind_some] at hu
      cases hnext : ofMonthIndex? (i + n) with
      | none =>
          rw [hnext] at hu
          exact absurd hu hlt.ne'
      | some u' =>
          rw [hnext, Option.getD_some] at hu
          rw [hu]
          exact ⟨i, 1, ht, one_pos, by rw [one_mul, monthIndex?_of_ofMonthIndex? hnext]⟩

/-- A later tick of a step of months belongs to a later month. -/
theorem monthsLater_of_boundaries : ((months n).boundaries lo hi).Pairwise (MonthsLater n) :=
  List.isChain_iff_pairwise.mp (isChain_boundaries.imp fun _ _ ↦ Follows.monthsLater)

end TimeStep

end Charting
