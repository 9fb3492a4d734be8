/-!
# The proleptic Gregorian calendar

Days are counted from 1970-01-01.  Both directions of the conversion go by years that begin in
March, so that the leap day is the last day of its year: four hundred such years are a cycle of
146097 days, made of four centuries of 36524 days and a leap day at the end, each century of
twenty-five spans of four years, and so on.
-/

namespace Charting

/-- A day of the calendar; months and days count from one. -/
structure Date where
  /-- The year, where zero and the negative years continue the count backwards. -/
  year : Int
  /-- The month, from 1 to 12. -/
  month : Nat
  /-- The day of the month. -/
  day : Nat
deriving DecidableEq, Repr, Inhabited

namespace Date

/-- Every fourth year is a leap year, except for the centuries that 400 does not divide. -/
def isLeapYear (year : Int) : Bool := year % 4 == 0 && (year % 100 != 0 || year % 400 == 0)

/-- The length of a month, zero if there is no such month. -/
def daysInMonth (year : Int) (month : Nat) : Nat :=
  match month with
  | 1 | 3 | 5 | 7 | 8 | 10 | 12 => 31
  | 4 | 6 | 9 | 11 => 30
  | 2 => if isLeapYear year then 29 else 28
  | _ => 0

/-- Years are counted from -262143 to 262142. -/
def isSupportedYear (year : Int) : Bool := -262143 ≤ year && year ≤ 262142

/-- Whether the calendar has this day, within the supported years. -/
def isValid (d : Date) : Bool :=
  isSupportedYear d.year && 1 ≤ d.day && d.day ≤ daysInMonth d.year d.month

/-- The days from 0000-03-01 to the first of March of a year. -/
def daysBeforeMarch (year : Int) : Int := 365 * year + year / 4 - year / 100 + year / 400

/-- The days from the first of March to the first of the month that lies `index` months later. -/
def daysBeforeMonth (index : Int) : Int := (153 * index + 2) / 5

/-- The days from 1970-01-01 to a date. -/
def toDays (d : Date) : Int :=
  let (year, index) : Int × Int :=
    if 3 ≤ d.month then (d.year, d.month - 3) else (d.year - 1, d.month + 9)
  daysBeforeMarch year + daysBeforeMonth index + (d.day - 1) - 719468

/-- The date that many days after 1970-01-01. -/
def ofDays (days : Int) : Date :=
  let n := days + 719468
  let cycle := n / 146097
  let n := n % 146097
  let century := min 3 (n / 36524)
  let n := n - 36524 * century
  let span := n / 1461
  let n := n % 1461
  let rest := min 3 (n / 365)
  let n := n - 365 * rest
  let year := 400 * cycle + 100 * century + 4 * span + rest
  let index := (5 * n + 2) / 153
  let day := (n - daysBeforeMonth index + 1).toNat
  if index < 10 then ⟨year, (index + 3).toNat, day⟩ else ⟨year + 1, (index - 9).toNat, day⟩

/-- The count of months since the beginning of year zero. -/
def monthIndex (d : Date) : Int := 12 * d.year + (d.month - 1)

/-- The first day of the month with the given count. -/
def ofMonthIndex (index : Int) : Date := ⟨index / 12, (index % 12).toNat + 1, 1⟩

end Date

end Charting
