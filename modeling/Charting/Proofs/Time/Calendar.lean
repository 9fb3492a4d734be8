import Charting.Time.Calendar
import Mathlib.Tactic.IntervalCases

/-!
# Days and dates

Every count of days is the count of one date of the calendar.  Both directions of the conversion go
through years that begin in March: a count of days since 0000-03-01 splits into such a year and a
day of it, and the day alone decides the month.
-/

namespace Charting

namespace Date

/-- Whether the calendar has this day, in whatever year. -/
def IsDay (d : Date) : Prop := 1 ≤ d.day ∧ d.day ≤ daysInMonth d.year d.month

theorem isValid_iff {d : Date} : d.isValid ↔ isSupportedYear d.year ∧ d.IsDay := by
  simp [isValid, IsDay, and_assoc]

theorem daysInMonth_le (year : Int) (month : Nat) : daysInMonth year month ≤ 31 := by
  unfold daysInMonth
  split <;> grind

theorem month_bounds_of_daysInMonth_pos {year : Int} {month : Nat}
    (h : 0 < daysInMonth year month) : 1 ≤ month ∧ month ≤ 12 := by
  unfold daysInMonth at h
  split at h <;> grind

theorem IsDay.month_bounds {d : Date} (hd : d.IsDay) : 1 ≤ d.month ∧ d.month ≤ 12 :=
  month_bounds_of_daysInMonth_pos (hd.1.trans hd.2)

theorem IsDay.day_le {d : Date} (hd : d.IsDay) : d.day ≤ 31 :=
  hd.2.trans (daysInMonth_le ..)

/-! ## Years that begin in March -/

theorem daysBeforeMarch_eq {cycle century span rest : Int}
    (hcentury : 0 ≤ century ∧ century ≤ 3) (hspan : 0 ≤ span ∧ span ≤ 24)
    (hrest : 0 ≤ rest ∧ rest ≤ 3) :
    daysBeforeMarch (400 * cycle + 100 * century + 4 * span + rest) =
      146097 * cycle + 36524 * century + 1461 * span + 365 * rest := by
  rw [daysBeforeMarch]
  omega

/-- The date of a day, counted from zero, of a year that begins in March. -/
def ofMarch (year day : Int) : Date :=
  let index := (5 * day + 2) / 153
  let d := (day - daysBeforeMonth index + 1).toNat
  if index < 10 then ⟨year, (index + 3).toNat, d⟩ else ⟨year + 1, (index - 9).toNat, d⟩

/-- A year that begins in March has the day: only a leap year ends with its day 365, in the
February of the year that is counted next. -/
structure IsMarchDay (year day : Int) : Prop where
  /-- The first of March is day zero. -/
  nonneg : 0 ≤ day
  /-- No year has more than 366 days. -/
  le : day ≤ 365
  /-- The last of these days is a leap day. -/
  leap : day = 365 → isLeapYear (year + 1)

/-- Every day falls into a year that begins in March. -/
theorem exists_ofDays_eq (n : Int) :
    ∃ year day, IsMarchDay year day ∧ n + 719468 = daysBeforeMarch year + day ∧
      ofDays n = ofMarch year day := by
  obtain ⟨cycle, hcycle⟩ : ∃ cycle, cycle = (n + 719468) / 146097 := ⟨_, rfl⟩
  obtain ⟨inCycle, hinCycle⟩ : ∃ k, k = (n + 719468) % 146097 := ⟨_, rfl⟩
  obtain ⟨century, hcentury⟩ : ∃ k, k = min 3 (inCycle / 36524) := ⟨_, rfl⟩
  obtain ⟨span, hspan⟩ : ∃ k, k = (inCycle - 36524 * century) / 1461 := ⟨_, rfl⟩
  obtain ⟨inSpan, hinSpan⟩ : ∃ k, k = (inCycle - 36524 * century) % 1461 := ⟨_, rfl⟩
  obtain ⟨rest, hrest⟩ : ∃ k, k = min 3 (inSpan / 365) := ⟨_, rfl⟩
  -- the last day of the last century ends a cycle, and the last day of the last year a span
  have hcentury' : 0 ≤ century ∧ century ≤ 3 ∧ 0 ≤ inCycle - 36524 * century ∧
      inCycle - 36524 * century ≤ 36524 ∧ (inCycle - 36524 * century = 36524 → century = 3) := by
    omega
  have hspan' : 0 ≤ span ∧ span ≤ 24 ∧ 0 ≤ inSpan ∧ inSpan ≤ 1460 ∧
      inCycle - 36524 * century = 1461 * span + inSpan := by omega
  have hrest' : 0 ≤ rest ∧ rest ≤ 3 ∧ 0 ≤ inSpan - 365 * rest ∧ inSpan - 365 * rest ≤ 365 ∧
      (inSpan - 365 * rest = 365 → rest = 3) := by omega
  refine ⟨400 * cycle + 100 * century + 4 * span + rest, inSpan - 365 * rest,
    ⟨hrest'.2.2.1, hrest'.2.2.2.1, fun hlast ↦ ?_⟩, ?_, ?_⟩
  · have : rest = 3 := hrest'.2.2.2.2 hlast
    have : span = 24 → century = 3 := by omega
    simp only [isLeapYear, Bool.and_eq_true, Bool.or_eq_true, beq_iff_eq, bne_iff_ne]
    omega
  · rw [daysBeforeMarch_eq (by omega) (by omega) (by omega)]
    omega
  · subst hrest hinSpan hspan hcentury hinCycle hcycle
    rfl

theorem IsMarchDay.isDay {year day : Int} (h : IsMarchDay year day) : (ofMarch year day).IsDay := by
  obtain ⟨hnonneg, hle, hleap⟩ := h
  obtain ⟨index, hindex⟩ : ∃ index, index = (5 * day + 2) / 153 := ⟨_, rfl⟩
  have hlower : 0 ≤ index := by omega
  have hupper : index ≤ 11 := by omega
  rw [ofMarch, ← hindex, IsDay]
  interval_cases index <;> simp [daysInMonth, daysBeforeMonth] <;> grind

theorem toDays_ofMarch {year day : Int} (hnonneg : 0 ≤ day) (hle : day ≤ 365) :
    (ofMarch year day).toDays = daysBeforeMarch year + day - 719468 := by
  simp only [ofMarch, toDays, daysBeforeMonth]
  split_ifs <;> grind

/-! ## Dates of days -/

theorem isDay_ofDays (n : Int) : (ofDays n).IsDay := by
  obtain ⟨year, day, hmarch, -, hdate⟩ := exists_ofDays_eq n
  exact hdate ▸ hmarch.isDay

/-- The date of a count of days has that count. -/
@[simp]
theorem toDays_ofDays (n : Int) : (ofDays n).toDays = n := by
  obtain ⟨year, day, hmarch, hn, hdate⟩ := exists_ofDays_eq n
  rw [hdate, toDays_ofMarch hmarch.nonneg hmarch.le]
  omega

/-- A day lies between the first of January and the last of December of its year. -/
theorem IsDay.toDays_bounds {d : Date} (hd : d.IsDay) :
    (Date.mk d.year 1 1).toDays ≤ d.toDays ∧ d.toDays ≤ (Date.mk d.year 12 31).toDays := by
  obtain ⟨year, month, day⟩ := d
  obtain ⟨hfirst, hlast⟩ := hd.month_bounds
  obtain ⟨hone, hday⟩ := hd
  dsimp only at hfirst hlast hone hday ⊢
  interval_cases month <;>
    simp [toDays, daysInMonth, daysBeforeMonth, daysBeforeMarch] at hday ⊢ <;>
    grind [isLeapYear]

theorem toDays_newYear_mono {y y' : Int} (h : y ≤ y') :
    (Date.mk y 1 1).toDays ≤ (Date.mk y' 1 1).toDays := by
  simp [toDays, daysBeforeMonth, daysBeforeMarch]
  omega

/-- A year begins on the day after the last day of the year before. -/
theorem toDays_newYear (y : Int) : (Date.mk (y + 1) 1 1).toDays = (Date.mk y 12 31).toDays + 1 := by
  simp [toDays, daysBeforeMonth, daysBeforeMarch]
  omega

/-- The year of a day tells whether the day is at or after the beginning of a given year. -/
theorem IsDay.le_year_iff {d : Date} (hd : d.IsDay) {y : Int} :
    y ≤ d.year ↔ (Date.mk y 1 1).toDays ≤ d.toDays := by
  obtain ⟨hfirst, hlast⟩ := hd.toDays_bounds
  refine ⟨fun h ↦ (toDays_newYear_mono h).trans hfirst, fun h ↦ ?_⟩
  by_contra hlt
  have := toDays_newYear_mono (show d.year + 1 ≤ y by omega)
  have := toDays_newYear d.year
  omega

/-- The years that are supported are those of the days between the first and the last of them. -/
theorem isSupportedYear_ofDays_iff {n : Int} :
    isSupportedYear (ofDays n).year ↔
      (Date.mk (-262143) 1 1).toDays ≤ n ∧ n ≤ (Date.mk 262142 12 31).toDays := by
  have hfirst := (isDay_ofDays n).le_year_iff (y := -262143)
  have hlast := (isDay_ofDays n).le_year_iff (y := 262142 + 1)
  rw [toDays_ofDays] at hfirst hlast
  rw [toDays_newYear] at hlast
  simp only [isSupportedYear, Bool.and_eq_true, decide_eq_true_eq]
  omega

end Date

end Charting
