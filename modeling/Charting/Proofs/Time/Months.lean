import Charting.Proofs.Time.Timestamp
import Charting.Time.Step

/-!
# Months

A month begins where the one before it ends, so that a day has one date (`Date.toDays_inj`), and the
first instant of a month in a supported year is told by the count of the month and the other way
round (`TimeStep.monthIndex?_of_ofMonthIndex?`).
-/

namespace Charting

namespace Date

variable {y : Int} {m m' : Nat} {d d' : Date}

theorem toDays_eq (d : Date) : d.toDays = (Date.mk d.year d.month 1).toDays + (d.day - 1) := by
  simp only [toDays]
  split_ifs <;> push_cast <;> omega

/-- A month begins after the last day of the month before. -/
theorem toDays_nextMonth (hm : 1 ≤ m) (hm' : m ≤ 11) :
    (Date.mk y (m + 1) 1).toDays = (Date.mk y m 1).toDays + daysInMonth y m := by
  interval_cases m <;> simp [toDays, daysInMonth, daysBeforeMonth, daysBeforeMarch] <;>
    grind [isLeapYear]

theorem toDays_month_mono (hm : 1 ≤ m) (hle : m ≤ m') (hm' : m' ≤ 12) :
    (Date.mk y m 1).toDays ≤ (Date.mk y m' 1).toDays := by
  induction m', hle using Nat.le_induction with
  | base => exact le_rfl
  | succ m' hle ih =>
      have hnext := toDays_nextMonth (y := y) (hm.trans hle) (show m' ≤ 11 by omega)
      have := ih (by omega)
      omega

/-- A day comes before the first day of any later month of its year. -/
theorem IsDay.toDays_lt (hd : d.IsDay) (hlt : d.month < m) (hm : m ≤ 12) :
    d.toDays < (Date.mk d.year m 1).toDays := by
  have hmonth := hd.month_bounds
  have hnext := toDays_nextMonth (y := d.year) hmonth.1 (show d.month ≤ 11 by omega)
  have hmono := toDays_month_mono (y := d.year) (show 1 ≤ d.month + 1 by omega) hlt hm
  have hday := hd.2
  rw [toDays_eq]
  omega

/-- A day has one date. -/
theorem toDays_inj (hd : d.IsDay) (hd' : d'.IsDay) (h : d.toDays = d'.toDays) : d = d' := by
  have hyear : d.year = d'.year := by
    have hle := hd.le_year_iff (y := d'.year)
    have hle' := hd'.le_year_iff (y := d.year)
    rw [h] at hle
    rw [← h] at hle'
    exact le_antisymm (hle'.mpr hd.toDays_bounds.1) (hle.mpr hd'.toDays_bounds.1)
  have hmonth : d.month = d'.month := by
    have hlt := hd.toDays_lt (m := d'.month)
    have hlt' := hd'.toDays_lt (m := d.month)
    have hfirst := toDays_eq d
    have hfirst' := toDays_eq d'
    have hday := hd.1
    have hday' := hd'.1
    have hmonth := hd.month_bounds
    have hmonth' := hd'.month_bounds
    rw [hyear] at hfirst hlt
    omega
  have hday := toDays_eq d
  have hday' := toDays_eq d'
  rw [hyear, hmonth] at hday
  obtain ⟨year, month, day⟩ := d
  obtain ⟨year', month', day'⟩ := d'
  obtain rfl : year = year' := hyear
  obtain rfl : month = month' := hmonth
  obtain rfl : day = day' := by
    dsimp only at hday hday'
    omega
  rfl

theorem ofDays_toDays (hd : d.IsDay) : ofDays d.toDays = d :=
  toDays_inj (isDay_ofDays _) hd (toDays_ofDays _)

theorem isDay_ofMonthIndex (i : Int) : (ofMonthIndex i).IsDay := by
  obtain ⟨m, hm⟩ : ∃ m, m = (i % 12).toNat := ⟨_, rfl⟩
  have hle : m ≤ 11 := by omega
  rw [ofMonthIndex, ← hm, IsDay]
  refine ⟨le_rfl, ?_⟩
  interval_cases m <;> simp [daysInMonth]
  split <;> decide

theorem monthIndex_ofMonthIndex (i : Int) : (ofMonthIndex i).monthIndex = i := by
  simp only [ofMonthIndex, monthIndex]
  omega

end Date

namespace TimeStep

/-- The first instant of a month belongs to the month. -/
theorem monthIndex?_of_ofMonthIndex? {i t : Int} (h : ofMonthIndex? i = some t) :
    monthIndex? t = some i := by
  unfold ofMonthIndex? at h
  dsimp only at h
  split at h
  case isFalse => cases h
  case isTrue hyear =>
    obtain rfl := Option.some.inj h
    have hdate : Date.ofDays ((Moment.mk (Date.ofMonthIndex i) 0 0).toTimestamp / msPerDay) =
        Date.ofMonthIndex i := by
      have hday : (Moment.mk (Date.ofMonthIndex i) 0 0).toTimestamp / msPerDay =
          (Date.ofMonthIndex i).toDays := by
        simp only [Moment.toTimestamp, msPerDay]
        omega
      rw [hday, Date.ofDays_toDays (Date.isDay_ofMonthIndex i)]
    rw [monthIndex?, Moment.ofTimestamp?, hdate, if_pos hyear, Option.map_some,
      Date.monthIndex_ofMonthIndex]

end TimeStep

end Charting
