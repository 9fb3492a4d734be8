import Mathlib.Data.Int.ConditionallyCompleteOrder
import Charting.Proofs.Time.TickTimes

/-!
# Boundaries of steps

The boundaries of a step are counted by the integers (`TimeStep.boundary`), and every time lies
between one of them and the following one.  As long as the calendar and the range of timestamps are
not left, `floor` and `ceil` go to the boundaries around a time, and `next` goes from each boundary
to the following one (`TimeStep.isGreatest_floor_isLeast_ceil`).
-/

namespace Charting

/-! ## First instants of months -/

namespace Date

/-- 1970-01-04 is a Sunday, and every seventh day before and after it. -/
def IsSunday (days : Int) : Prop := days % 7 = 3

/-- A month begins where the month before it ends. -/
theorem toDays_ofMonthIndex_add_one (i : Int) :
    (ofMonthIndex (i + 1)).toDays = (ofMonthIndex i).toDays +
      daysInMonth (ofMonthIndex i).year (ofMonthIndex i).month := by
  simp only [ofMonthIndex]
  rcases lt_or_eq_of_le (show i % 12 ≤ 11 by omega) with hlt | hlast
  · rw [show (i + 1) / 12 = i / 12 by omega,
      show ((i + 1) % 12).toNat = (i % 12).toNat + 1 by omega]
    exact toDays_nextMonth (by omega) (by omega)
  · have hyear := toDays_newYear (i / 12)
    rw [toDays_eq ⟨i / 12, 12, 31⟩] at hyear
    rw [show (i + 1) / 12 = i / 12 + 1 by omega, show ((i + 1) % 12).toNat = 0 by omega, hlast]
    simp only [daysInMonth] at hyear ⊢
    rw [hyear]
    push_cast
    omega

theorem daysInMonth_ofMonthIndex_bounds (i : Int) :
    28 ≤ daysInMonth (ofMonthIndex i).year (ofMonthIndex i).month ∧
      daysInMonth (ofMonthIndex i).year (ofMonthIndex i).month ≤ 31 := by
  obtain ⟨m, hm⟩ : ∃ m, m = (i % 12).toNat := ⟨_, rfl⟩
  have hle : m ≤ 11 := by omega
  simp only [ofMonthIndex, ← hm]
  interval_cases m <;> simp only [daysInMonth] <;> first | decide | (split <;> decide)

theorem IsDay.ofMonthIndex_monthIndex {d : Date} (hd : d.IsDay) :
    ofMonthIndex d.monthIndex = ⟨d.year, d.month, 1⟩ := by
  have hmonth := hd.month_bounds
  simp only [ofMonthIndex, monthIndex]
  rw [show (12 * d.year + ((d.month : Int) - 1)) / 12 = d.year by omega,
    show ((12 * d.year + ((d.month : Int) - 1)) % 12).toNat + 1 = d.month by omega]

/-- A day belongs to the month that it names. -/
theorem IsDay.month_toDays_bounds {d : Date} (hd : d.IsDay) :
    (ofMonthIndex d.monthIndex).toDays ≤ d.toDays ∧
      d.toDays < (ofMonthIndex (d.monthIndex + 1)).toDays := by
  have hday := hd.1
  have hlast := hd.2
  rw [toDays_ofMonthIndex_add_one, hd.ofMonthIndex_monthIndex, toDays_eq d]
  dsimp only
  omega

end Date

/-- The first instant of a month. -/
def monthStart (i : Int) : Int := (Moment.mk (Date.ofMonthIndex i) 0 0).toTimestamp

/-- The count of months of the month that a time lies in. -/
def monthOf (t : Int) : Int := (Date.ofDays (t / msPerDay)).monthIndex

theorem monthStart_eq (i : Int) : monthStart i = (Date.ofMonthIndex i).toDays * msPerDay := by
  simp [monthStart, Moment.toTimestamp]

theorem monthStart_strictMono : StrictMono monthStart := by
  refine strictMono_int_of_lt_succ fun i ↦ ?_
  have hlength := (Date.daysInMonth_ofMonthIndex_bounds i).1
  rw [monthStart_eq, monthStart_eq, Date.toDays_ofMonthIndex_add_one, msPerDay]
  omega

/-- A time lies in its month. -/
theorem monthOf_bounds (t : Int) :
    monthStart (monthOf t) ≤ t ∧ t < monthStart (monthOf t + 1) := by
  obtain ⟨hfirst, hlast⟩ := (Date.isDay_ofDays (t / msPerDay)).month_toDays_bounds
  rw [Date.toDays_ofDays] at hfirst hlast
  rw [monthStart_eq, monthStart_eq, monthOf]
  simp only [msPerDay] at *
  omega

theorem monthOf_eq_iff {t i : Int} :
    monthOf t = i ↔ monthStart i ≤ t ∧ t < monthStart (i + 1) := by
  obtain ⟨hfirst, hlast⟩ := monthOf_bounds t
  constructor
  · rintro rfl
    exact ⟨hfirst, hlast⟩
  · rintro ⟨hle, hlt⟩
    have := monthStart_strictMono.lt_iff_lt.mp (hle.trans_lt hlast)
    have := monthStart_strictMono.lt_iff_lt.mp (hfirst.trans_lt hlt)
    omega

@[simp]
theorem monthOf_monthStart (i : Int) : monthOf (monthStart i) = i :=
  monthOf_eq_iff.mpr ⟨le_rfl, monthStart_strictMono (lt_add_one i)⟩

/-- The calendar has this month. -/
def IsSupportedMonth (i : Int) : Prop := Date.isSupportedYear (i / 12)

instance : DecidablePred IsSupportedMonth := fun i ↦
  inferInstanceAs (Decidable (Date.isSupportedYear (i / 12) = true))

theorem isSupportedMonth_iff {i : Int} :
    IsSupportedMonth i ↔ -3145716 ≤ i ∧ i ≤ 3145715 := by
  simp only [IsSupportedMonth, Date.isSupportedYear, Bool.and_eq_true, decide_eq_true_eq]
  omega

namespace TimeStep

theorem monthIndex?_eq (t : Int) :
    monthIndex? t = if Date.isSupportedYear (monthOf t / 12) then some (monthOf t) else none := by
  have hyear : monthOf t / 12 = (Date.ofDays (t / msPerDay)).year := by
    have := (Date.isDay_ofDays (t / msPerDay)).month_bounds
    simp only [monthOf, Date.monthIndex]
    omega
  rw [monthIndex?, Moment.ofTimestamp?, hyear]
  split <;> rfl

theorem monthIndex?_of_isSupportedMonth {t : Int} (h : IsSupportedMonth (monthOf t)) :
    monthIndex? t = some (monthOf t) := by
  rw [monthIndex?_eq]
  exact if_pos h

theorem ofMonthIndex?_of_isSupportedMonth {i : Int} (h : IsSupportedMonth i) :
    ofMonthIndex? i = some (monthStart i) := if_pos h

/-! ## The boundaries of a step -/

/-- A time at which a step can begin and end. -/
def IsBoundary (step : TimeStep) (t : Int) : Prop :=
  match step with
  | millis ms => ms ∣ t
  | week => ∃ days, Date.IsSunday days ∧ t = days * msPerDay
  | months n =>
    ∃ d : Date, d.IsDay ∧ d.day = 1 ∧ n ∣ d.monthIndex ∧ t = (Moment.mk d 0 0).toTimestamp

/-- A step leads to later times. -/
def IsForward : TimeStep → Prop
  | millis ms => 0 < ms
  | week => True
  | months n => 0 < n

instance : DecidablePred IsForward := fun step ↦
  match step with
  | millis ms => inferInstanceAs (Decidable (0 < ms))
  | week => .isTrue trivial
  | months n => inferInstanceAs (Decidable (0 < n))

theorem IsRegular.isForward {step : TimeStep} (h : step.IsRegular) : step.IsForward := by
  cases step with
  | millis ms => exact h.1
  | week => trivial
  | months n => exact h

/-- The boundaries of a step, counted. -/
def boundary (step : TimeStep) (k : Int) : Int :=
  match step with
  | millis ms => k * ms
  | week => k * weekLength + sundayOffset
  | months n => monthStart (k * n)

/-- The count of the last boundary that is not after a time. -/
def index (step : TimeStep) (t : Int) : Int :=
  match step with
  | millis ms => t / ms
  | week => (t - sundayOffset) / weekLength
  | months n => monthOf t / n

variable {step : TimeStep} {t u b : Int}

theorem boundary_strictMono (h : step.IsForward) : StrictMono step.boundary := by
  intro j k hlt
  cases step with
  | millis ms => exact mul_lt_mul_of_pos_right hlt h
  | week =>
      simp only [boundary, weekLength, day, hour, minute, second]
      omega
  | months n => exact monthStart_strictMono (mul_lt_mul_of_pos_right hlt h)

/-- A time lies between two boundaries that follow one another. -/
theorem index_bounds (h : step.IsForward) (t : Int) :
    step.boundary (step.index t) ≤ t ∧ t < step.boundary (step.index t + 1) := by
  cases step with
  | millis ms => exact ⟨Int.ediv_mul_le t (ne_of_gt h), Int.lt_ediv_add_one_mul_self t h⟩
  | week =>
      simp only [boundary, index, weekLength, sundayOffset, day, hour, minute, second]
      omega
  | months n =>
      obtain ⟨hfirst, hlast⟩ := monthOf_bounds t
      have hle := Int.ediv_mul_le (monthOf t) (ne_of_gt h)
      have hlt := Int.lt_ediv_add_one_mul_self (monthOf t) h
      exact ⟨(monthStart_strictMono.monotone hle).trans hfirst,
        hlast.trans_le (monthStart_strictMono.monotone hlt)⟩

theorem isBoundary_iff (h : step.IsForward) : step.IsBoundary t ↔ ∃ k, t = step.boundary k := by
  cases step with
  | millis ms => simp only [IsBoundary, boundary, Dvd.dvd, mul_comm]
  | week =>
      simp only [IsBoundary, Date.IsSunday, boundary, weekLength, sundayOffset, day, hour, minute,
        second, msPerDay]
      constructor
      · rintro ⟨days, hsunday, rfl⟩
        exact ⟨days / 7, by omega⟩
      · rintro ⟨k, rfl⟩
        exact ⟨7 * k + 3, by omega, by omega⟩
  | months n =>
      constructor
      · rintro ⟨⟨year, month, day⟩, hd, rfl, ⟨k, hk⟩, rfl⟩
        refine ⟨k, ?_⟩
        rw [boundary, monthStart, mul_comm k, ← hk, hd.ofMonthIndex_monthIndex]
      · rintro ⟨k, rfl⟩
        exact ⟨Date.ofMonthIndex (k * n), Date.isDay_ofMonthIndex _, rfl,
          by rw [Date.monthIndex_ofMonthIndex]; exact Int.dvd_mul_left k n, rfl⟩

theorem isBoundary_boundary (h : step.IsForward) (k : Int) : step.IsBoundary (step.boundary k) :=
  (isBoundary_iff h).mpr ⟨k, rfl⟩

/-- The boundaries at and after a given one are those with at least its count. -/
theorem boundary_le_iff (h : step.IsForward) {j k : Int} :
    step.boundary j ≤ step.boundary k ↔ j ≤ k :=
  (boundary_strictMono h).le_iff_le

/-- A boundary is not after a time if it is not counted after the last one before it. -/
theorem boundary_le_iff_le_index (h : step.IsForward) {k : Int} :
    step.boundary k ≤ t ↔ k ≤ step.index t := by
  obtain ⟨hle, hlt⟩ := index_bounds h t
  refine ⟨fun hk ↦ ?_, fun hk ↦ ((boundary_le_iff h).mpr hk).trans hle⟩
  exact Int.lt_add_one_iff.mp ((boundary_strictMono h).lt_iff_lt.mp (hk.trans_lt hlt))

theorem index_boundary (h : step.IsForward) (k : Int) : step.index (step.boundary k) = k :=
  le_antisymm ((boundary_le_iff h).mp (index_bounds h _).1) ((boundary_le_iff_le_index h).mp le_rfl)

/-! ## Rounding -/

theorem clampInt64_of_fitsInt64 (h : FitsInt64 t) : clampInt64 t = t := by
  rw [clampInt64, if_neg (not_lt.mpr h.1), if_neg (not_lt.mpr h.2)]

/-- Rounding down stays in the range of timestamps, and in the calendar, which has the month of the
time and that of the boundary. -/
def HasFloor (step : TimeStep) (t : Int) : Prop :=
  match step with
  | millis ms => FitsInt64 (t / ms * ms)
  | week => FitsInt64 (t - sundayOffset) ∧
    FitsInt64 ((t - sundayOffset) / weekLength * weekLength + sundayOffset)
  | months n => IsSupportedMonth (monthOf t) ∧ IsSupportedMonth (monthOf t / n * n)

instance (step : TimeStep) : DecidablePred step.HasFloor := fun t ↦
  match step with
  | millis ms => inferInstanceAs (Decidable (FitsInt64 (t / ms * ms)))
  | week => inferInstanceAs <| Decidable <| FitsInt64 (t - sundayOffset) ∧
    FitsInt64 ((t - sundayOffset) / weekLength * weekLength + sundayOffset)
  | months n =>
    inferInstanceAs <| Decidable <|
      IsSupportedMonth (monthOf t) ∧ IsSupportedMonth (monthOf t / n * n)

/-- Only months vary in length. -/
def isFixed : TimeStep → Bool
  | months _ => false
  | _ => true

theorem exists_months_of_isFixed_eq_false (h : step.isFixed = false) : ∃ n, step = months n := by
  cases step with
  | months n => exact ⟨n, rfl⟩
  | millis ms => cases h
  | week => cases h

/-- Small times are rounded down within the range of timestamps. -/
theorem hasFloor_of_isFixed (hstep : step.IsRegular) (hfixed : step.isFixed) (ht : |t| ≤ 2 ^ 54) :
    step.HasFloor t := by
  obtain ⟨hlower, hupper⟩ := abs_le.mp ht
  cases step with
  | millis ms =>
      obtain ⟨hpos, htwo, -⟩ := hstep
      have hle := Int.ediv_mul_le t hpos.ne'
      have hlt := Int.lt_ediv_add_one_mul_self t hpos
      rw [add_one_mul] at hlt
      simp only [HasFloor, FitsInt64, minInt64, maxInt64, day, hour, minute, second] at *
      omega
  | week =>
      simp only [HasFloor, FitsInt64, minInt64, maxInt64, weekLength, sundayOffset, day, hour,
        minute, second]
      omega
  | months n => cases hfixed

/-- Going on by one step stays in the range of timestamps, and in the calendar. -/
def HasNext (step : TimeStep) (t : Int) : Prop :=
  match step with
  | millis ms => FitsInt64 (t + ms)
  | week => FitsInt64 (t + weekLength)
  | months n => IsSupportedMonth (monthOf t) ∧ IsSupportedMonth (monthOf t + n)

instance (step : TimeStep) : DecidablePred step.HasNext := fun t ↦
  match step with
  | millis ms => inferInstanceAs (Decidable (FitsInt64 (t + ms)))
  | week => inferInstanceAs (Decidable (FitsInt64 (t + weekLength)))
  | months n =>
    inferInstanceAs <| Decidable <|
      IsSupportedMonth (monthOf t) ∧ IsSupportedMonth (monthOf t + n)

/-- From small times steps go on within the range of timestamps. -/
theorem hasNext_of_isFixed (hstep : step.IsRegular) (hfixed : step.isFixed) (ht : |t| ≤ 2 ^ 54) :
    step.HasNext t := by
  obtain ⟨hlower, hupper⟩ := abs_le.mp ht
  cases step with
  | millis ms =>
      obtain ⟨hpos, htwo, -⟩ := hstep
      simp only [HasNext, FitsInt64, minInt64, maxInt64, day, hour, minute, second] at *
      omega
  | week =>
      simp only [HasNext, FitsInt64, minInt64, maxInt64, weekLength, day, hour, minute, second]
      omega
  | months n => cases hfixed

/-- Rounding up stays in the range of timestamps and in the calendar; it goes on from the boundary
before. -/
def HasCeil (step : TimeStep) (t : Int) : Prop :=
  step.HasFloor t ∧ (step.floor t ≠ t → step.HasNext (step.floor t))

instance (step : TimeStep) : DecidablePred step.HasCeil := fun t ↦
  inferInstanceAs (Decidable (step.HasFloor t ∧ (step.floor t ≠ t → step.HasNext (step.floor t))))

theorem floor_eq (h : step.HasFloor t) : step.floor t = step.boundary (step.index t) := by
  rw [floor.eq_def]
  cases step with
  | millis ms => exact wrapInt64_of_fitsInt64 h
  | week =>
      dsimp only
      rw [wrapInt64_of_fitsInt64 h.1]
      exact wrapInt64_of_fitsInt64 h.2
  | months n =>
      have hmod : monthOf t - monthOf t % n = monthOf t / n * n := by
        have := Int.mul_ediv_add_emod (monthOf t) n
        rw [mul_comm] at this
        omega
      dsimp only
      rw [monthIndex?_of_isSupportedMonth h.1]
      dsimp only
      rw [hmod, ofMonthIndex?_of_isSupportedMonth h.2]
      rfl

/-- From a boundary it is one step to the following one. -/
theorem next_boundary {k : Int} (h : step.HasNext (step.boundary k)) :
    step.next (step.boundary k) = step.boundary (k + 1) := by
  cases step with
  | millis ms =>
      rw [next, clampInt64_of_fitsInt64 h, boundary, boundary, add_one_mul]
  | week =>
      rw [next, clampInt64_of_fitsInt64 h, boundary, boundary, add_one_mul, add_right_comm]
  | months n =>
      obtain ⟨hmonth, hnext⟩ := h
      simp only [boundary, monthOf_monthStart] at hmonth hnext ⊢
      have hindex : monthIndex? (monthStart (k * n)) = some (k * n) := by
        have h := monthIndex?_of_isSupportedMonth (t := monthStart (k * n))
        rw [monthOf_monthStart] at h
        exact h hmonth
      rw [next, hindex, Option.bind_some, ofMonthIndex?_of_isSupportedMonth hnext, add_one_mul]
      rfl

/-- A time that is no boundary is rounded up to the boundary after the one below. -/
theorem ceil_eq (h : step.HasCeil t) :
    step.ceil t = if step.boundary (step.index t) = t then t
      else step.boundary (step.index t + 1) := by
  obtain ⟨hfloor, hnext⟩ := h
  rw [ceil, floor_eq hfloor] at *
  split
  case isTrue => rfl
  case isFalse hne => exact next_boundary (hnext hne)

theorem isGreatest_floor (h : step.IsForward) (hfloor : step.HasFloor t) :
    IsGreatest {b | step.IsBoundary b ∧ b ≤ t} (step.floor t) := by
  rw [floor_eq hfloor]
  refine ⟨⟨isBoundary_boundary h _, (index_bounds h t).1⟩, ?_⟩
  rintro b ⟨hb, hle⟩
  obtain ⟨k, rfl⟩ := (isBoundary_iff h).mp hb
  exact (boundary_le_iff h).mpr ((boundary_le_iff_le_index h).mp hle)

theorem isLeast_ceil (h : step.IsForward) (hceil : step.HasCeil t) :
    IsLeast {b | step.IsBoundary b ∧ t ≤ b} (step.ceil t) := by
  obtain ⟨hle, hlt⟩ := index_bounds h t
  rw [ceil_eq hceil]
  split
  case isTrue heq =>
    refine ⟨⟨?_, le_rfl⟩, fun b hb ↦ hb.2⟩
    have hboundary := isBoundary_boundary h (step.index t)
    rwa [heq] at hboundary
  case isFalse hne =>
    refine ⟨⟨isBoundary_boundary h _, hlt.le⟩, ?_⟩
    rintro b ⟨hb, hle'⟩
    obtain ⟨k, rfl⟩ := (isBoundary_iff h).mp hb
    -- the boundary before is below the time
    have hk := (boundary_strictMono h).lt_iff_lt.mp ((lt_of_le_of_ne hle hne).trans_le hle')
    exact (boundary_le_iff h).mpr hk

theorem isLeast_next (h : step.IsForward) (hb : step.IsBoundary b) (hnext : step.HasNext b) :
    IsLeast {c | step.IsBoundary c ∧ b < c} (step.next b) := by
  obtain ⟨k, rfl⟩ := (isBoundary_iff h).mp hb
  rw [next_boundary hnext]
  refine ⟨⟨isBoundary_boundary h _, boundary_strictMono h (lt_add_one k)⟩, ?_⟩
  rintro c ⟨hc, hlt⟩
  obtain ⟨j, rfl⟩ := (isBoundary_iff h).mp hc
  exact (boundary_le_iff h).mpr ((boundary_strictMono h).lt_iff_lt.mp hlt)

/-- As long as the range of timestamps and the calendar are not left, a time is rounded down to the
last boundary that is not after it and up to the first one that is not before it, and a step leads
from each boundary to the following one. -/
theorem isGreatest_floor_isLeast_ceil (h : step.IsForward) (t : Int) :
    (step.HasFloor t → IsGreatest {b | step.IsBoundary b ∧ b ≤ t} (step.floor t)) ∧
      (step.HasCeil t → IsLeast {b | step.IsBoundary b ∧ t ≤ b} (step.ceil t)) ∧
      ∀ b, step.IsBoundary b → step.HasNext b →
        IsLeast {c | step.IsBoundary c ∧ b < c} (step.next b) :=
  ⟨isGreatest_floor h, isLeast_ceil h, fun _ ↦ isLeast_next h⟩

/-- The last second of 1969 is rounded to 1969-10-01 and 1970-01-01 by quarters, and the quarter
after that begins on 1970-04-01. -/
theorem isGreatest_floor_isLeast_ceil_quarter :
    IsGreatest {b | (months 3).IsBoundary b ∧ b ≤ -1000} (-7948800000) ∧
      IsLeast {b | (months 3).IsBoundary b ∧ -1000 ≤ b} 0 ∧
      IsLeast {c | (months 3).IsBoundary c ∧ 0 < c} 7776000000 := by
  have hforward : (months 3).IsForward := by decide
  obtain ⟨hfloor, hceil, hnext⟩ := isGreatest_floor_isLeast_ceil hforward (-1000)
  have hzero : (months 3).IsBoundary 0 := (isBoundary_iff hforward).mpr ⟨7880, by decide +kernel⟩
  refine ⟨?_, ?_, ?_⟩
  · rw [show (-7948800000 : Int) = (months 3).floor (-1000) by decide +kernel]
    exact hfloor (by decide +kernel)
  · rw [show (0 : Int) = (months 3).ceil (-1000) by decide +kernel]
    exact hceil (by decide +kernel)
  · rw [show (7776000000 : Int) = (months 3).next 0 by decide +kernel]
    exact hnext 0 hzero (by decide +kernel)

end TimeStep

end Charting
