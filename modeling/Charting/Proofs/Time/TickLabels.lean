import Charting.Proofs.Numeric.Integers
import Charting.Proofs.Numeric.Numerals
import Charting.Proofs.Time.TickTimes
import Charting.Scale.Temporal

/-!
# Labels of times

The label of a tick shows a part of its time that depends on the step alone.  Two ticks have the same
label exactly if they differ in nothing that is shown (`TimeStep.label_eq_iff`): times of day do not
show the day, days do not show the year, and months and years show everything.
-/

namespace Charting

/-! ## Parts of a label -/

namespace Timestamp

theorem padded_inj {width n n' : Nat} (h : padded width n = padded width n') : n = n' := by
  have hread := congrArg (fun s ↦ readDigits 0 s.toList) h
  simpa using hread

theorem yearText_inj {y y' : Int} (h : yearText y = yearText y') : y = y' := by
  have hread := readsYear_year y []
  rw [h, readsYear_year y' []] at hread
  exact (Prod.mk.inj (Option.some.inj hread)).1.symm

theorem secondText_append_inj {s s' : Nat} {rest rest' : String} (hs : s < 86400) (hs' : s' < 86400)
    (h : secondText s ++ rest = secondText s' ++ rest') : s = s' ∧ rest = rest' := by
  have hread := timeOfDay_secondText readsTwoDigits_exactDigits hs rest.toList
  rw [← String.toList_append, h, String.toList_append,
    timeOfDay_secondText readsTwoDigits_exactDigits hs' rest'.toList] at hread
  obtain ⟨hsecond, hrest⟩ := Prod.mk.inj (Option.some.inj hread)
  exact ⟨hsecond.symm, (String.toList_inj.mp hrest).symm⟩

theorem secondText_inj {s s' : Nat} (hs : s < 86400) (hs' : s' < 86400)
    (h : secondText s = secondText s') : s = s' :=
  (secondText_append_inj hs hs' (congrArg (· ++ "") h)).1

end Timestamp

namespace TimeStep

theorem length_monthName (m : Nat) : (monthName m).toList.length = 3 := by
  unfold monthName
  split <;> rfl

theorem monthName_inj : ∀ m < 13, ∀ m' < 13, 1 ≤ m → 1 ≤ m' → monthName m = monthName m' → m = m' := by
  decide

/-- The name of a month can be told from what comes after it. -/
theorem monthName_append_inj {m m' : Nat} (hm : 1 ≤ m ∧ m ≤ 12) (hm' : 1 ≤ m' ∧ m' ≤ 12)
    {rest rest' : String} (h : monthName m ++ " " ++ rest = monthName m' ++ " " ++ rest') :
    m = m' ∧ rest = rest' := by
  have hlist := congrArg String.toList h
  simp only [String.append_assoc, String.toList_append] at hlist
  obtain ⟨hname, hrest⟩ := List.append_inj hlist (by simp only [length_monthName])
  exact ⟨monthName_inj m (by omega) m' (by omega) hm.1 hm'.1 (String.toList_inj.mp hname),
    String.toList_inj.mp (List.append_cancel_left hrest)⟩

/-! ## Moments -/

/-- Two ticks differ only in what the labels of a step do not show: the day, or the year. -/
def Hides (step : TimeStep) (m m' : Moment) : Prop :=
  match step with
  | millis ms =>
    if ms < day then m.second = m'.second ∧ m.milli = m'.milli
    else m.date.month = m'.date.month ∧ m.date.day = m'.date.day
  | week => m.date.month = m'.date.month ∧ m.date.day = m'.date.day
  | months _ => False

variable {step : TimeStep} {lo hi t u : Int} {m m' : Moment}

/-- Two times are boundaries of a step, the second one a later one. -/
def AreBoundaries (step : TimeStep) (t u : Int) : Prop :=
  match step with
  | millis ms => ms ∣ t ∧ ms ∣ u
  | week => True
  | months n => MonthsLater n t u

theorem areBoundaries_of_boundaries (hstep : step.IsRegular) (hlo : FitsInt64 lo) :
    (step.boundaries lo hi).Pairwise fun t u ↦ u < maxInt64 → step.AreBoundaries t u := by
  cases step with
  | millis ms =>
      refine pairwise_boundaries.imp_of_mem fun ht hu hlt hmax ↦ ?_
      exact ⟨dvd_of_mem_boundaries hstep hlo ht (hlt.trans hmax),
        dvd_of_mem_boundaries hstep hlo hu hmax⟩
  | week =>
      refine pairwise_boundaries.imp fun _ _ ↦ ?_
      trivial
  | months n =>
      refine monthsLater_of_boundaries.imp fun h _ ↦ ?_
      exact h

/-- Times of day are told apart: what is not shown of them is zero. -/
theorem momentLabel_millis_eq_iff {ms : Int} (hstep : (millis ms).IsRegular) (hms : ms < day)
    (ht : ms ∣ t) (hu : ms ∣ u) (hm : Moment.ofTimestamp? t = some m)
    (hm' : Moment.ofTimestamp? u = some m') :
    (millis ms).momentLabel m = (millis ms).momentLabel m' ↔
      m.second = m'.second ∧ m.milli = m'.milli := by
  obtain ⟨-, hsecond, hmilli, hmt⟩ := Moment.of_ofTimestamp? hm
  obtain ⟨-, hsecond', hmilli', hmu⟩ := Moment.of_ofTimestamp? hm'
  obtain ⟨-, -, hdvd, hdvd'⟩ := hstep
  have hunit {unit : Int} (hunit : unit ∣ ms) : unit ∣ m.toTimestamp ∧ unit ∣ m'.toTimestamp := by
    rw [hmt, hmu]
    exact ⟨hunit.trans ht, hunit.trans hu⟩
  simp only [Moment.toTimestamp, msPerDay] at hunit
  simp only [momentLabel]
  -- the seconds, or the milliseconds, are left out only by steps that are whole minutes, or seconds
  split_ifs with hmillis hseconds
  · constructor
    · intro h
      rw [String.append_assoc, String.append_assoc] at h
      obtain ⟨heq, hrest⟩ := Timestamp.secondText_append_inj hsecond hsecond' h
      have hlist := congrArg String.toList hrest
      rw [String.toList_append, String.toList_append] at hlist
      exact ⟨heq, Timestamp.padded_inj (String.toList_inj.mp (List.append_cancel_left hlist))⟩
    · rintro ⟨hs, hms⟩
      rw [hs, hms]
  · obtain ⟨hwhole, hwhole'⟩ := hunit (hdvd (not_lt.mp hmillis))
    simp only [second] at hwhole hwhole'
    constructor
    · intro h
      have := Timestamp.secondText_inj hsecond hsecond' h
      omega
    · rintro ⟨hs, -⟩
      rw [hs]
  · obtain ⟨hwhole, hwhole'⟩ := hunit (hdvd' (not_lt.mp hseconds))
    simp only [minute, second] at hwhole hwhole'
    constructor
    · intro h
      have hmod : m.second % 60 = m'.second % 60 := by omega
      have heq : Timestamp.secondText m.second = Timestamp.secondText m'.second := by
        rw [Timestamp.secondText, Timestamp.secondText, h, hmod]
      have := Timestamp.secondText_inj hsecond hsecond' heq
      omega
    · rintro ⟨hs, -⟩
      rw [hs]

/-- The label of a day has its month and its number. -/
theorem monthDay_eq_iff (hm : Moment.ofTimestamp? t = some m)
    (hm' : Moment.ofTimestamp? u = some m') :
    monthName m.date.month ++ " " ++ Timestamp.padded 2 m.date.day =
        monthName m'.date.month ++ " " ++ Timestamp.padded 2 m'.date.day ↔
      m.date.month = m'.date.month ∧ m.date.day = m'.date.day := by
  have hmonth := (Date.isValid_iff.mp (Moment.of_ofTimestamp? hm).1).2.month_bounds
  have hmonth' := (Date.isValid_iff.mp (Moment.of_ofTimestamp? hm').1).2.month_bounds
  constructor
  · intro h
    obtain ⟨hname, hrest⟩ := monthName_append_inj hmonth hmonth' h
    exact ⟨hname, Timestamp.padded_inj hrest⟩
  · rintro ⟨hmonth, hday⟩
    rw [hmonth, hday]

/-- Months and years are told apart. -/
theorem momentLabel_months_ne {n : Int} (hstep : (months n).IsRegular) (h : MonthsLater n t u)
    (hm : Moment.ofTimestamp? t = some m) (hm' : Moment.ofTimestamp? u = some m') :
    (months n).momentLabel m ≠ (months n).momentLabel m' := by
  have hmonth := (Date.isValid_iff.mp (Moment.of_ofTimestamp? hm).1).2.month_bounds
  have hmonth' := (Date.isValid_iff.mp (Moment.of_ofTimestamp? hm').1).2.month_bounds
  obtain ⟨i, k, ht, hk, hu⟩ := h
  rw [monthIndex?, hm, Option.map_some] at ht
  rw [monthIndex?, hm', Option.map_some] at hu
  have hlater : m'.date.monthIndex = m.date.monthIndex + k * n := by
    rw [Option.some.inj ht]
    exact Option.some.inj hu
  simp only [Date.monthIndex] at hlater
  intro heq
  simp only [momentLabel] at heq
  -- the month is left out only by steps of a year or more, which always lead to another year
  split at heq
  case isTrue hshort =>
    obtain ⟨hname, hyear⟩ := monthName_append_inj hmonth hmonth' heq
    have hyear := Timestamp.yearText_inj hyear
    have hpos : 0 < k * n := Int.mul_pos hk hstep
    omega
  case isFalse hlong =>
    have hyear := Timestamp.yearText_inj heq
    have hfar : n ≤ k * n := by nlinarith [show 0 < n from hstep]
    omega

/-- Two ticks have the same label exactly if they differ in nothing that is shown. -/
theorem momentLabel_eq_iff (hstep : step.IsRegular) (h : step.AreBoundaries t u)
    (hm : Moment.ofTimestamp? t = some m) (hm' : Moment.ofTimestamp? u = some m') :
    step.momentLabel m = step.momentLabel m' ↔ step.Hides m m' := by
  cases step with
  | millis ms =>
      by_cases hday : ms < day
      · rw [momentLabel_millis_eq_iff hstep hday h.1 h.2 hm hm', Hides, if_pos hday]
      · have hlong : ¬ms < second ∧ ¬ms < minute := by
          simp only [day, hour, minute, second] at hday ⊢
          omega
        rw [Hides, if_neg hday, ← monthDay_eq_iff hm hm']
        simp only [momentLabel, if_neg hlong.1, if_neg hlong.2, if_neg hday]
  | week => exact monthDay_eq_iff hm hm'
  | months n => exact iff_of_false (momentLabel_months_ne hstep h hm hm') id

/-! ## Times and numbers -/

/-- Times of day and days are not written as numbers. -/
theorem momentLabel_ne_positional (hstep : ∀ n, step ≠ months n) (m : Moment) (d : Decimal) :
    step.momentLabel m ≠ d.positional := by
  have hmem : ':' ∈ (step.momentLabel m).toList ∨ ' ' ∈ (step.momentLabel m).toList := by
    cases step with
    | millis ms =>
        simp only [momentLabel]
        split_ifs <;> simp [Timestamp.secondText, Timestamp.minuteText]
    | week => simp [momentLabel]
    | months n => exact absurd rfl (hstep n)
  intro heq
  rw [heq] at hmem
  rcases hmem with hmem | hmem <;> simpa using Decimal.mem_positional hmem

end TimeStep

variable {step : TimeStep} {t u : Int}

theorem timeLabel_of_moment {m : Moment} (ht : |t| ≤ 2 ^ 53) (hm : Moment.ofTimestamp? t = some m) :
    timeLabel step (t : ℚ) = step.momentLabel m := by
  rw [timeLabel, toInt64_intCast ht, TimeStep.label?, hm]
  rfl

theorem timeLabel_of_none (ht : |t| ≤ 2 ^ 53) (hm : Moment.ofTimestamp? t = none) :
    timeLabel step (t : ℚ) = (Exact.toDecimal t).positional := by
  rw [timeLabel, toInt64_intCast ht, TimeStep.label?, hm]
  rfl

/-- Times that are written as numbers are told apart. -/
theorem eq_of_toDecimal_eq (ht : |t| ≤ 2 ^ 53) (hu : |u| ≤ 2 ^ 53)
    (h : (Exact.toDecimal t).positional = (Exact.toDecimal u).positional) : t = u := by
  have hbounds := abs_le.mp ht
  have hbounds' := abs_le.mp hu
  have hread := Exact.read?_text_intCast (n := t) (by omega)
  have hread' := Exact.read?_text_intCast (n := u) (by omega)
  have htext : Scalar.text (t : ℚ) = Scalar.text (u : ℚ) := h
  rw [htext, hread'] at hread
  exact_mod_cast (Option.some.inj hread).symm

/-- Two ticks have the same label exactly if they differ in nothing that is shown. -/
theorem TimeStep.label_eq_iff (hstep : step.IsRegular) (h : step.AreBoundaries t u) (hne : t ≠ u)
    (ht : |t| ≤ 2 ^ 53) (hu : |u| ≤ 2 ^ 53) :
    timeLabel step (t : ℚ) = timeLabel step (u : ℚ) ↔
      ∃ m m', Moment.ofTimestamp? t = some m ∧ Moment.ofTimestamp? u = some m' ∧
        step.Hides m m' := by
  have hmonths (n : Int) (hn : step = months n) :
      (Moment.ofTimestamp? t).isSome ∧ (Moment.ofTimestamp? u).isSome := by
    subst hn
    obtain ⟨i, k, ht, -, hu⟩ := h
    have hsome := congrArg Option.isSome ht
    have hsome' := congrArg Option.isSome hu
    rw [monthIndex?, Option.isSome_map] at hsome hsome'
    exact ⟨hsome, hsome'⟩
  cases hm : Moment.ofTimestamp? t with
  | some m =>
      rw [timeLabel_of_moment ht hm]
      cases hm' : Moment.ofTimestamp? u with
      | some m' =>
          rw [timeLabel_of_moment hu hm', momentLabel_eq_iff hstep h hm hm']
          simp
      | none =>
          rw [timeLabel_of_none hu hm']
          have hshort (n : Int) : step ≠ months n := fun hn ↦ by simpa [hm'] using (hmonths n hn).2
          simp [momentLabel_ne_positional hshort]
  | none =>
      rw [timeLabel_of_none ht hm]
      have hshort (n : Int) : step ≠ months n := fun hn ↦ by simpa [hm] using (hmonths n hn).1
      cases hm' : Moment.ofTimestamp? u with
      | some m' =>
          rw [timeLabel_of_moment hu hm']
          simp [(momentLabel_ne_positional hshort m' _).symm]
      | none =>
          rw [timeLabel_of_none hu hm']
          simp only [reduceCtorEq, false_and, exists_false, iff_false]
          exact fun heq ↦ hne (eq_of_toDecimal_eq ht hu heq)

end Charting
