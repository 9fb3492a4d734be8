import Charting.Proofs.Time.Boundaries
import Charting.Proofs.Time.Extension
import Charting.Proofs.Time.Ladder

/-!
# Extension to boundaries

A round of extension moves the ends of an interval of time to boundaries of a step.  Counted in
milliseconds, or in years if the ends are beginnings of years, that is an extension to multiples
(`TimeStep.exists_isExtended`).
-/

namespace Charting

/-- The first instant of a year. -/
def yearStart (year : Int) : Int := monthStart (12 * year)

theorem yearStart_strictMono : StrictMono yearStart := fun _ _ h ↦
  monthStart_strictMono (mul_lt_mul_of_pos_left h (by decide))

theorem yearStart_eq (year : Int) :
    yearStart year = (365 * (year - 1) + (year - 1) / 4 - (year - 1) / 100 + (year - 1) / 400 +
      306 - 719468) * msPerDay := by
  have hdate : Date.ofMonthIndex (12 * year) = ⟨year, 1, 1⟩ := by
    simp only [Date.ofMonthIndex]
    rw [show 12 * year / 12 = year by omega, show 12 * year % 12 = 0 by omega]
    rfl
  rw [yearStart, monthStart_eq, hdate]
  simp only [Date.toDays, Date.daysBeforeMarch, Date.daysBeforeMonth]
  rw [if_neg (by decide)]
  congr 1
  norm_num

/-- A year has 365 days, and every fourth year one more at most. -/
theorem yearStart_sub_bounds {p n : Int} (hn : 0 ≤ n) :
    n * (365 * msPerDay) ≤ yearStart (p + n) - yearStart p ∧
      yearStart (p + n) - yearStart p ≤ (365 * n + n / 4 + 1) * msPerDay := by
  rw [yearStart_eq, yearStart_eq, ← Int.sub_mul, ← mul_assoc]
  have hday : 0 ≤ msPerDay := by decide
  exact ⟨mul_le_mul_of_nonneg_right (by omega) hday, mul_le_mul_of_nonneg_right (by omega) hday⟩

/-- A month has 28 days at least and 31 at most. -/
theorem monthStart_sub_bounds (i : Int) (n : Nat) :
    n * (28 * msPerDay) ≤ monthStart (i + n) - monthStart i ∧
      monthStart (i + n) - monthStart i ≤ n * (31 * msPerDay) := by
  induction n with
  | zero => simp
  | succ n ih =>
      have hlength := Date.daysInMonth_ofMonthIndex_bounds (i + n)
      have hnext := Date.toDays_ofMonthIndex_add_one (i + n)
      simp only [monthStart_eq] at ih ⊢
      push_cast
      rw [← add_assoc, hnext]
      simp only [msPerDay] at ih ⊢
      omega

namespace TimeStep

variable {step : TimeStep} {d : Int × Int} {t : Int}

/-! ## One round -/

/-- The interval between the boundaries around another one. -/
def extend (step : TimeStep) (d : Int × Int) : Int × Int := (step.floor d.1, step.ceil d.2)

/-- Extension stays in the range of timestamps and in the calendar. -/
def CanExtend (step : TimeStep) (d : Int × Int) : Prop := step.HasFloor d.1 ∧ step.HasCeil d.2

instance (step : TimeStep) : DecidablePred step.CanExtend := fun d ↦
  inferInstanceAs (Decidable (step.HasFloor d.1 ∧ step.HasCeil d.2))

/-- The greatest distance of boundaries that follow one another. -/
def reach : TimeStep → Int
  | millis ms => ms
  | week => weekLength
  | months n => n * (31 * msPerDay)

theorem boundary_add_one_le (h : step.IsForward) (k : Int) :
    step.boundary (k + 1) ≤ step.boundary k + step.reach := by
  cases step with
  | millis ms => simp only [boundary, reach, add_one_mul, le_refl]
  | week =>
      simp only [boundary, reach, add_one_mul]
      omega
  | months n =>
      have hn : 0 < n := h
      have hmonths := (monthStart_sub_bounds (k * n) n.toNat).2
      rw [Int.toNat_of_nonneg hn.le, ← add_one_mul] at hmonths
      simp only [boundary, reach]
      omega

section Round

variable (hforward : step.IsForward) (h : step.CanExtend d)

include hforward h

/-- Both ends become boundaries. -/
theorem exists_extend_eq : ∃ j k, step.extend d = (step.boundary j, step.boundary k) := by
  obtain ⟨j, hj⟩ := (isBoundary_iff hforward).mp (isGreatest_floor hforward h.1).1.1
  obtain ⟨k, hk⟩ := (isBoundary_iff hforward).mp (isLeast_ceil hforward h.2).1.1
  exact ⟨j, k, Prod.ext hj hk⟩

/-- Both ends move outwards. -/
theorem extend_outwards : (step.extend d).1 ≤ d.1 ∧ d.2 ≤ (step.extend d).2 :=
  ⟨(isGreatest_floor hforward h.1).1.2, (isLeast_ceil hforward h.2).1.2⟩

/-- Both ends move by less than the distance of two boundaries. -/
theorem extend_lt :
    d.1 < (step.extend d).1 + step.reach ∧ (step.extend d).2 < d.2 + step.reach := by
  obtain ⟨hle, hlt⟩ := index_bounds hforward d.1
  obtain ⟨hle', hlt'⟩ := index_bounds hforward d.2
  have hreach := boundary_add_one_le hforward (step.index d.1)
  have hreach' := boundary_add_one_le hforward (step.index d.2)
  simp only [extend]
  rw [floor_eq h.1, ceil_eq h.2]
  refine ⟨by omega, ?_⟩
  split <;> omega

/-- If boundaries are the places of multiples, an interval between two places is extended to
multiples. -/
theorem exists_isExtended {place : Int → Int} (hplace : StrictMono place) {y o p q : Int}
    (hboundary : ∀ k, step.boundary k = place (k * y + o)) (hd : d = (place p, place q)) :
    ∃ e : Int × Int, step.extend d = (place e.1, place e.2) ∧ IsExtended y o (p, q) e := by
  subst hd
  have hindex (p : Int) : step.index (place p) * y + o ≤ p ∧
      p < (step.index (place p) + 1) * y + o := by
    obtain ⟨hle, hlt⟩ := index_bounds hforward (place p)
    rw [hboundary] at hle hlt
    exact ⟨hplace.le_iff_le.mp hle, hplace.lt_iff_lt.mp hlt⟩
  obtain ⟨hle, hlt⟩ := hindex p
  obtain ⟨hle', hlt'⟩ := hindex q
  rw [add_one_mul] at hlt hlt'
  have hdvd (k : Int) : y ∣ k * y + o - o := by simp
  have hfloor : step.floor (place p) = place (step.index (place p) * y + o) := by
    rw [floor_eq h.1, hboundary]
  have hceil := ceil_eq h.2
  rw [hboundary, hboundary] at hceil
  dsimp only at hceil
  split at hceil
  case isTrue heq =>
    refine ⟨(step.index (place p) * y + o, q), Prod.ext hfloor hceil, hdvd _, ?_, hle, ?_, le_rfl,
      ?_⟩
    · rw [← hplace.injective heq]
      exact hdvd _
    · dsimp only
      omega
    · have := hplace.injective heq
      dsimp only
      omega
  case isFalse hne =>
    have hne' : step.index (place q) * y + o ≠ q := fun heq ↦ hne (congrArg place heq)
    refine ⟨(step.index (place p) * y + o, (step.index (place q) + 1) * y + o),
      Prod.ext hfloor hceil, hdvd _, hdvd _, hle, ?_, ?_, ?_⟩ <;> dsimp only <;>
      rw [add_one_mul] at * <;> omega

end Round

/-- Small boundaries are left where they are, and so are those of months outside of the calendar. -/
theorem floor_boundary (hstep : step.IsRegular) {k : Int} (hsmall : |step.boundary k| ≤ 2 ^ 54) :
    step.floor (step.boundary k) = step.boundary k := by
  have hforward := hstep.isForward
  cases hfixed : step.isFixed with
  | true => rw [floor_eq (hasFloor_of_isFixed hstep hfixed hsmall), index_boundary hforward]
  | false =>
      obtain ⟨n, rfl⟩ := exists_months_of_isFixed_eq_false hfixed
      rw [floor.eq_def]
      simp only [boundary, monthIndex?_eq, monthOf_monthStart]
      split
      case h_1 => rfl
      case h_2 index hindex =>
        obtain ⟨hsupported, rfl⟩ : Date.isSupportedYear (k * n / 12) = true ∧ k * n = index := by
          split at hindex
          case isTrue h => exact ⟨h, Option.some.inj hindex⟩
          case isFalse => exact absurd hindex (by simp)
        rw [Int.mul_emod_left, sub_zero, ofMonthIndex?_of_isSupportedMonth hsupported]
        rfl

theorem extend_boundary (hstep : step.IsRegular) {j k : Int} (hj : |step.boundary j| ≤ 2 ^ 54)
    (hk : |step.boundary k| ≤ 2 ^ 54) :
    step.extend (step.boundary j, step.boundary k) = (step.boundary j, step.boundary k) := by
  rw [extend, ceil, floor_boundary hstep hj, floor_boundary hstep hk]
  simp

/-! ## The bounds of the calendar -/

/-- Outside of the calendar times are not rounded to months, and inside they are rounded down to a
month of the calendar. -/
theorem floor_months_cases {n : Int} (hforward : (months n).IsForward) (t : Int) :
    (months n).floor t = t ∨
      ∃ i, IsSupportedMonth i ∧ (months n).floor t = monthStart i ∧ monthStart i ≤ t := by
  rw [floor.eq_def]
  simp only [monthIndex?_eq]
  split
  case h_1 => exact .inl rfl
  case h_2 index hindex =>
    obtain rfl : monthOf t = index := by
      split at hindex
      case isTrue => exact Option.some.inj hindex
      case isFalse => exact absurd hindex (by simp)
    rw [ofMonthIndex?]
    split
    case isFalse => exact .inl rfl
    case isTrue hyear =>
      have hle : monthOf t - monthOf t % n ≤ monthOf t :=
        sub_le_self _ (Int.emod_nonneg _ (ne_of_gt hforward))
      exact .inr ⟨_, hyear, rfl, (monthStart_strictMono.monotone hle).trans (monthOf_bounds t).1⟩

theorem floor_months_le {n : Int} (hforward : (months n).IsForward) (t : Int) :
    (months n).floor t ≤ t := by
  rcases floor_months_cases hforward t with h | ⟨i, -, h, hle⟩
  · exact h.le
  · exact h.trans_le hle

/-- Where the calendar ends, rounding up goes down. -/
theorem ceil_lt_of_not_hasNext {n : Int} (hforward : (months n).IsForward)
    (hfloor : (months n).HasFloor t) (hne : (months n).floor t ≠ t)
    (h : ¬(months n).HasNext ((months n).floor t)) : (months n).ceil t < t := by
  have hle := floor_months_le hforward t
  have hindex := floor_eq hfloor
  have hsupported : IsSupportedMonth (monthOf ((months n).floor t)) := by
    rw [hindex, boundary, index, monthOf_monthStart]
    exact hfloor.2
  have hnext : ofMonthIndex? (monthOf ((months n).floor t) + n) = none :=
    if_neg fun hnext ↦ h ⟨hsupported, hnext⟩
  rw [ceil, if_neg hne, next, monthIndex?_of_isSupportedMonth hsupported, Option.bind_some, hnext,
    Option.getD_none]
  exact lt_of_le_of_ne hle hne

/-- All times of the calendar are this near to 1970. -/
def calendarBound : Int := 8334601228800000

theorem abs_le_of_isSupportedMonth (h : IsSupportedMonth (monthOf t)) : |t| ≤ calendarBound := by
  obtain ⟨hle, hlt⟩ := monthOf_bounds t
  obtain ⟨hfirst, hlast⟩ := isSupportedMonth_iff.mp h
  have hlower := monthStart_strictMono.monotone hfirst
  have hupper := monthStart_strictMono.monotone (Int.add_le_add_right hlast 1)
  rw [show monthStart (-3145716) = -8334601228800000 by decide +kernel] at hlower
  rw [show monthStart (3145715 + 1) = 8210266876800000 by decide +kernel] at hupper
  rw [calendarBound, abs_le]
  omega

/-- Months that an interval is extended to belong to the calendar. -/
theorem exists_extend_months {n : Int} (h : (months n).CanExtend d) :
    ∃ j k, (months n).extend d = (monthStart (j * n), monthStart (k * n)) ∧
      IsSupportedMonth (j * n) ∧ IsSupportedMonth (k * n) := by
  obtain ⟨hfirst, hlast, hnext⟩ := h
  have hlower := floor_eq hfirst
  have hupper := ceil_eq ⟨hlast, hnext⟩
  rw [floor_eq hlast] at hnext
  split at hupper
  case isTrue heq =>
    refine ⟨monthOf d.1 / n, monthOf d.2 / n, Prod.ext hlower (hupper.trans heq.symm), hfirst.2,
      hlast.2⟩
  case isFalse hne =>
    obtain ⟨-, hsupported⟩ := hnext hne
    rw [boundary, monthOf_monthStart, ← add_one_mul] at hsupported
    exact ⟨monthOf d.1 / n, monthOf d.2 / n + 1, Prod.ext hlower hupper, hfirst.2, hsupported⟩

/-- Steps are not longer than the calendar. -/
theorem le_of_canExtend {y : Int} (hy : 0 < y) (hlt : d.1 < d.2)
    (h : (months (12 * y)).CanExtend d) : y ≤ 262143 := by
  have hforward : (months (12 * y)).IsForward := show 0 < 12 * y by omega
  obtain ⟨hfst, hsnd⟩ := extend_outwards hforward h
  obtain ⟨j, k, heq, hj, hk⟩ := exists_extend_months h
  rw [heq] at hfst hsnd
  have hjk : j < k :=
    lt_of_mul_lt_mul_right (monthStart_strictMono.lt_iff_lt.mp (hfst.trans_lt (hlt.trans_le hsnd)))
      hforward.le
  obtain ⟨hlower, -⟩ := isSupportedMonth_iff.mp hj
  obtain ⟨-, hupper⟩ := isSupportedMonth_iff.mp hk
  by_contra hlong
  have hj' : 0 ≤ j := by nlinarith
  nlinarith

/-- The steps of the ladder lead to later times. -/
theorem isForward_of_mem_ladder : ∀ s ∈ ladder, s.IsForward := by
  decide +kernel

theorem reach_le_of_isFixed (hstep : step.IsRegular) (hfixed : step.isFixed) :
    step.reach ≤ weekLength := by
  cases step with
  | millis ms => exact hstep.2.1.trans (by decide)
  | week => exact le_rfl
  | months n => cases hfixed

/-- An interval is not extended far beyond the calendar. -/
theorem abs_extend_le {bound : Int} (hstep : step.IsRegular) (hbound : calendarBound ≤ bound)
    (h : step.CanExtend d) (hle : d.1 ≤ d.2) (hfst : |d.1| ≤ bound) (hsnd : |d.2| ≤ bound) :
    |(step.extend d).1| ≤ bound + weekLength ∧ |(step.extend d).2| ≤ bound + weekLength := by
  have hweek : (0 : Int) ≤ weekLength := by decide
  cases hfixed : step.isFixed with
  | true =>
      have hreach := reach_le_of_isFixed hstep hfixed
      obtain ⟨hlower, hupper⟩ := extend_outwards hstep.isForward h
      obtain ⟨hlower', hupper'⟩ := extend_lt hstep.isForward h
      simp only [abs_le] at hfst hsnd ⊢
      omega
  | false =>
      obtain ⟨n, rfl⟩ := exists_months_of_isFixed_eq_false hfixed
      obtain ⟨j, k, heq, hj, hk⟩ := exists_extend_months h
      have hlower := abs_le_of_isSupportedMonth (t := monthStart (j * n)) (by simpa using hj)
      have hupper := abs_le_of_isSupportedMonth (t := monthStart (k * n)) (by simpa using hk)
      rw [heq]
      exact ⟨by dsimp only; omega, by dsimp only; omega⟩

/-- A small time is rounded down by a week at most or within the calendar, even where the calendar
is left otherwise. -/
theorem floor_bounds {bound : Int} (hstep : step.IsRegular) (hbound : calendarBound ≤ bound)
    (hsmall : bound ≤ 2 ^ 53) (hlower : -bound ≤ t) (hupper : t ≤ bound) :
    -(bound + weekLength) ≤ step.floor t ∧ step.floor t ≤ t := by
  have hweek : (0 : Int) ≤ weekLength := by decide
  cases hfixed : step.isFixed with
  | true =>
      have hfits : |t| ≤ 2 ^ 54 := abs_le.mpr ⟨by omega, by omega⟩
      have hreach := reach_le_of_isFixed hstep hfixed
      have hnext := boundary_add_one_le hstep.isForward (step.index t)
      obtain ⟨hle, hlt⟩ := index_bounds hstep.isForward t
      rw [floor_eq (hasFloor_of_isFixed hstep hfixed hfits)]
      omega
  | false =>
      obtain ⟨n, rfl⟩ := exists_months_of_isFixed_eq_false hfixed
      rcases floor_months_cases hstep.isForward t with h | ⟨i, hi, h, hle⟩
      · rw [h]
        omega
      · have hmonth := abs_le_of_isSupportedMonth (t := monthStart i) (by simpa using hi)
        obtain ⟨hmonth, -⟩ := abs_le.mp hmonth
        rw [h]
        omega

end TimeStep

end Charting
