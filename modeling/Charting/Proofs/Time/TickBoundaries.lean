import Charting.Proofs.Numeric.DoubleIntegers
import Charting.Proofs.Time.Rounds
import Charting.Scale.Temporal

/-!
# Ticks of time and boundaries

The ticks of an interval of time are the boundaries of their step that lie in the interval, all of
them up to the most that an axis can have (`timeTicks_eq_boundaries`).  They are found by going from
boundary to boundary, which a count of the boundaries keeps track of (`TimeStep.boundariesFrom_eq`).
-/

namespace Charting

namespace TimeStep

variable {step : TimeStep} {lo hi t : Int}

/-- The boundaries from one count to another one. -/
def boundaryRange (step : TimeStep) (first last : Int) : List Int :=
  (List.range (last + 1 - first).toNat).map fun i : Nat ↦ step.boundary (first + i)

theorem boundaryRange_of_lt {first last : Int} (h : last < first) :
    step.boundaryRange first last = [] := by
  rw [boundaryRange, show (last + 1 - first).toNat = 0 by omega]
  rfl

theorem boundaryRange_of_le {first last : Int} (h : first ≤ last) :
    step.boundaryRange first last =
      step.boundary first :: step.boundaryRange (first + 1) last := by
  rw [boundaryRange, boundaryRange,
    show (last + 1 - first).toNat = (last + 1 - (first + 1)).toNat + 1 by omega,
    List.range_succ_eq_map, List.map_cons, List.map_map]
  congr 1
  · simp
  · refine List.map_congr_left fun i _ ↦ ?_
    simp only [Function.comp_apply]
    congr 1
    push_cast
    omega

theorem mem_boundaryRange {first last : Int} :
    t ∈ step.boundaryRange first last ↔ ∃ k, first ≤ k ∧ k ≤ last ∧ step.boundary k = t := by
  simp only [boundaryRange, List.mem_map, List.mem_range]
  constructor
  · rintro ⟨i, hi, rfl⟩
    exact ⟨first + i, by omega, by omega, rfl⟩
  · rintro ⟨k, hfirst, hlast, rfl⟩
    exact ⟨(k - first).toNat, by omega, by congr 1; omega⟩

theorem pairwise_boundaryRange (h : step.IsForward) (first last : Int) :
    (step.boundaryRange first last).Pairwise (· < ·) := by
  refine List.pairwise_map.mpr (List.pairwise_lt_range.imp fun hlt ↦ ?_)
  exact boundary_strictMono h (by omega)

/-- Going from a boundary to the following ones up to a time leads to all boundaries up to that
time, as far as the fuel goes. -/
theorem boundariesFrom_eq (h : step.IsForward) (fuel : Nat) (first : Int)
    (hnext : ∀ t ∈ step.boundariesFrom hi fuel (step.boundary first), step.HasNext t) :
    step.boundariesFrom hi fuel (step.boundary first) =
      (step.boundaryRange first (step.index hi)).take fuel := by
  induction fuel generalizing first with
  | zero => rw [boundariesFrom, List.take_zero]
  | succ fuel ih =>
      rw [boundariesFrom] at hnext ⊢
      by_cases hle : step.boundary first ≤ hi
      · rw [if_pos hle] at hnext ⊢
        -- one step leads to the following boundary, which is later
        rw [next_boundary (hnext _ List.mem_cons_self),
          if_pos (boundary_strictMono h (lt_add_one first))] at hnext ⊢
        rw [boundaryRange_of_le ((boundary_le_iff_le_index h).mp hle), List.take_succ_cons,
          ih (first + 1) fun t ht ↦ hnext t (List.mem_cons_of_mem _ ht)]
      · have hlast := mt (boundary_le_iff_le_index h).mpr hle
        rw [if_neg hle, boundaryRange_of_lt (not_le.mp hlast), List.take_nil]

/-! ## Staying in the calendar -/

/-- All months that are met on the way from boundary to boundary are months of the calendar. -/
def StaysInCalendar (step : TimeStep) (lo hi : Int) : Prop :=
  match step with
  | millis _ | week => True
  | months n =>
    (months n).HasCeil lo ∧ ∀ t ∈ (months n).boundaries lo hi, (months n).HasNext t

instance (step : TimeStep) (lo hi : Int) : Decidable (step.StaysInCalendar lo hi) :=
  match step with
  | millis _ | week => .isTrue trivial
  | months n => inferInstanceAs <| Decidable <|
      (months n).HasCeil lo ∧ ∀ t ∈ (months n).boundaries lo hi, (months n).HasNext t

theorem le_of_mem_boundariesFrom {fuel : Nat} {u : Int} (h : u ∈ step.boundariesFrom hi fuel t) :
    u ≤ hi := by
  induction fuel generalizing t with
  | zero => simp [boundariesFrom] at h
  | succ fuel ih =>
      rw [boundariesFrom] at h
      split at h
      case isFalse => simp at h
      case isTrue hle =>
        rcases List.mem_cons.mp h with rfl | h
        · exact hle
        · split at h
          case isTrue => exact ih h
          case isFalse => simp at h

/-- The ticks lie between the first boundary and the end of the interval. -/
theorem bounds_of_mem_boundaries (h : t ∈ step.boundaries lo hi) : step.ceil lo ≤ t ∧ t ≤ hi :=
  ⟨boundaries_induction le_rfl (fun _ _ hfollows hle ↦ hle.trans hfollows.1.le) h,
    le_of_mem_boundariesFrom h⟩

/-- Small times are rounded up within the range of timestamps. -/
theorem hasCeil_of_staysInCalendar (hstep : step.IsRegular) (hlo : |lo| ≤ 2 ^ 53)
    (h : step.StaysInCalendar lo hi) : step.HasCeil lo := by
  cases hfixed : step.isFixed with
  | true =>
      obtain ⟨hlower, hupper⟩ := abs_le.mp hlo
      obtain ⟨hlower', hupper'⟩ := floor_bounds hstep (by decide) le_rfl hlower hupper
      have hweek : weekLength ≤ 2 ^ 53 := by decide
      refine ⟨hasFloor_of_isFixed hstep hfixed (hlo.trans (by decide)), fun _ ↦ ?_⟩
      exact hasNext_of_isFixed hstep hfixed (abs_le.mpr ⟨by omega, by omega⟩)
  | false =>
      obtain ⟨n, rfl⟩ := exists_months_of_isFixed_eq_false hfixed
      exact h.1

/-- From small boundaries the steps go on within the range of timestamps. -/
theorem hasNext_of_staysInCalendar (hstep : step.IsRegular) (hlo : |lo| ≤ 2 ^ 53)
    (hhi : |hi| ≤ 2 ^ 53) (h : step.StaysInCalendar lo hi) (ht : t ∈ step.boundaries lo hi) :
    step.HasNext t := by
  cases hfixed : step.isFixed with
  | true =>
      obtain ⟨hfirst, hlast⟩ := bounds_of_mem_boundaries ht
      have hceil := hasCeil_of_staysInCalendar hstep hlo h
      have hle := (isLeast_ceil hstep.isForward hceil).1.2.trans hfirst
      obtain ⟨hlower, -⟩ := abs_le.mp hlo
      obtain ⟨-, hupper⟩ := abs_le.mp hhi
      exact hasNext_of_isFixed hstep hfixed (abs_le.mpr ⟨by omega, by omega⟩)
  | false =>
      obtain ⟨n, rfl⟩ := exists_months_of_isFixed_eq_false hfixed
      exact h.2 t ht

end TimeStep

/-! ## Ticks -/

variable {R : Type} [Scalar R] [LawfulIntegers R]

/-- The ticks of an interval have the step of its length.  They are the boundaries of that step in
the interval, from the first one on and without a gap, cut after ten thousand. -/
theorem timeTicks_eq_boundaries {lo hi : Int} (hlo : |lo| ≤ 2 ^ 53) (hhi : |hi| ≤ 2 ^ 53)
    (hle : lo ≤ hi) {count : Nat} (hcount : 1 ≤ count) :
    let step := timeStep (Scalar.ofInt hi - Scalar.ofInt lo : R) count
    (timeTicks (Scalar.ofInt lo : R) (Scalar.ofInt hi) count).1 = step ∧
      (step.StaysInCalendar lo hi →
        ∃ all : List Int, all.Pairwise (· < ·) ∧
          (∀ b, b ∈ all ↔ step.IsBoundary b ∧ lo ≤ b ∧ b ≤ hi) ∧
          (timeTicks (Scalar.ofInt lo : R) (Scalar.ofInt hi) count).2 =
            (all.take 10000).map Scalar.ofInt) := by
  intro step
  have hticks : timeTicks (Scalar.ofInt lo : R) (Scalar.ofInt hi) count =
      (step, (step.boundaries lo hi).map Scalar.ofInt) := by
    have horder := (LawfulIntegers.ofInt_le_ofInt_iff (R := R) hlo hhi).mpr hle
    simp only [timeTicks, if_pos horder, LawfulIntegers.isFinite_ofInt hlo,
      LawfulIntegers.isFinite_ofInt hhi, LawfulIntegers.toInt64_ofInt hlo,
      LawfulIntegers.toInt64_ofInt hhi, show count ≠ 0 by omega, Bool.not_true, Bool.or_false,
      decide_false, Bool.false_eq_true, if_false]
    rfl
  rw [hticks]
  refine ⟨rfl, fun hstays ↦ ?_⟩
  have hregular : step.IsRegular := TimeStep.isRegular_atLeast _
  have hforward := hregular.isForward
  have hceil := TimeStep.isLeast_ceil hforward
    (TimeStep.hasCeil_of_staysInCalendar hregular hlo hstays)
  obtain ⟨first, hfirst⟩ := (TimeStep.isBoundary_iff hforward).mp hceil.1.1
  have hnext : ∀ t ∈ step.boundaries lo hi, step.HasNext t := fun t ht ↦
    TimeStep.hasNext_of_staysInCalendar hregular hlo hhi hstays ht
  rw [TimeStep.boundaries, hfirst] at hnext
  refine ⟨step.boundaryRange first (step.index hi),
    TimeStep.pairwise_boundaryRange hforward _ _, fun b ↦ ?_, ?_⟩
  · rw [TimeStep.mem_boundaryRange]
    constructor
    · rintro ⟨k, hfirst', hlast, rfl⟩
      have hlo' := hceil.1.2
      rw [hfirst] at hlo'
      exact ⟨TimeStep.isBoundary_boundary hforward k,
        hlo'.trans ((TimeStep.boundary_le_iff hforward).mpr hfirst'),
        (TimeStep.boundary_le_iff_le_index hforward).mpr hlast⟩
    · rintro ⟨hb, hlo', hhi'⟩
      have hleast := hceil.2 ⟨hb, hlo'⟩
      obtain ⟨k, rfl⟩ := (TimeStep.isBoundary_iff hforward).mp hb
      rw [hfirst] at hleast
      exact ⟨k, (TimeStep.boundary_le_iff hforward).mp hleast,
        (TimeStep.boundary_le_iff_le_index hforward).mp hhi', rfl⟩
  · rw [TimeStep.boundaries, hfirst,
      TimeStep.boundariesFrom_eq hforward TimeStep.maxTicks first hnext]
    rfl

/-- The ticks between 2020-01-15 and 2020-06-10 are the beginnings of months. -/
theorem timeTicks_eq_boundaries_months :
    ∃ all : List Int, all.Pairwise (· < ·) ∧
      (∀ b, b ∈ all ↔ (TimeStep.months 1).IsBoundary b ∧ 1579046400000 ≤ b ∧ b ≤ 1591747200000) ∧
      timeTicks (Scalar.ofInt 1579046400000 : Float) (Scalar.ofInt 1591747200000) 5 =
        (.months 1, (all.take 10000).map Scalar.ofInt) := by
  have hstep : timeStep (Scalar.ofInt 1591747200000 - Scalar.ofInt 1579046400000 : Float) 5 =
      .months 1 := by decide +kernel
  obtain ⟨hfirst, hticks⟩ := timeTicks_eq_boundaries (R := Float)
    (show |(1579046400000 : Int)| ≤ 2 ^ 53 by decide)
    (show |(1591747200000 : Int)| ≤ 2 ^ 53 by decide) (by decide) (show 1 ≤ 5 by decide)
  rw [hstep] at hfirst hticks
  obtain ⟨all, hsorted, hall, hlist⟩ := hticks (by decide +kernel)
  exact ⟨all, hsorted, hall, Prod.ext hfirst hlist⟩

end Charting
