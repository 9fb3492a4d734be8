import Charting.Numeric.Rounding
import Charting.Time.Timestamp

/-!
# Steps of time

The distance between the ticks of a time axis: a fixed number of milliseconds, a week, or a number
of calendar months.  `TimeStep.floor` and `TimeStep.ceil` go to the step boundaries around a
timestamp and `TimeStep.next` goes from one boundary to the next.
-/

namespace Charting

/-- A step between ticks. -/
inductive TimeStep where
  /-- A fixed number of milliseconds, aligned to 1970-01-01. -/
  | millis (ms : Int)
  /-- A week, aligned to Sundays. -/
  | week
  /-- A number of calendar months, aligned to the beginning of year zero. -/
  | months (count : Int)
deriving DecidableEq, Repr

namespace TimeStep

/-- The milliseconds of a second. -/
def second : Int := 1000

/-- The milliseconds of a minute. -/
def minute : Int := 60 * second

/-- The milliseconds of an hour. -/
def hour : Int := 60 * minute

/-- The milliseconds of a day. -/
def day : Int := 24 * hour

/-- The milliseconds of a week. -/
def weekLength : Int := 7 * day

/-- The first Sunday after 1970-01-01 is 1970-01-04. -/
def sundayOffset : Int := 3 * day

/-- The count of months of a timestamp in a supported year. -/
def monthIndex? (t : Int) : Option Int := (Moment.ofTimestamp? t).map (·.date.monthIndex)

/-- The timestamp of the first instant of a month in a supported year. -/
def ofMonthIndex? (index : Int) : Option Int :=
  let first := Date.ofMonthIndex index
  if Date.isSupportedYear first.year then some (Moment.mk first 0 0).toTimestamp else none

/-- The length of a step, where every month counts as thirty days. -/
def length : TimeStep → Int
  | millis ms => ms
  | week => weekLength
  | months n => n * 30 * day

/-- The last boundary that is not after `t`, computed in 64 bits. -/
def floor (step : TimeStep) (t : Int) : Int :=
  match step with
  | millis ms => wrapInt64 (t / ms * ms)
  | week => wrapInt64 (wrapInt64 (t - sundayOffset) / weekLength * weekLength + sundayOffset)
  | months n =>
    match monthIndex? t with
    | none => t
    | some index => (ofMonthIndex? (index - index % n)).getD t

/-- One step after `t`; the range of timestamps ends at 64 bits. -/
def next (step : TimeStep) (t : Int) : Int :=
  match step with
  | millis ms => clampInt64 (t + ms)
  | week => clampInt64 (t + weekLength)
  | months n => ((monthIndex? t).bind fun index => ofMonthIndex? (index + n)).getD t

/-- The first boundary that is not before `t`. -/
def ceil (step : TimeStep) (t : Int) : Int :=
  let f := step.floor t
  if f = t then t else step.next f

/-- The steps up to a year, from the shortest to the longest. -/
def short : List TimeStep :=
  [millis 1, millis 2, millis 5, millis 10, millis 20, millis 50, millis 100, millis 200,
    millis 500, millis second, millis (5 * second), millis (15 * second), millis (30 * second),
    millis minute, millis (5 * minute), millis (15 * minute), millis (30 * minute),
    millis hour, millis (3 * hour), millis (6 * hour), millis (12 * hour),
    millis day, millis (2 * day), week, months 1, months 3, months 12]

/-- The round numbers of years: one, two and five times a power of ten. -/
def roundYears : List Int :=
  (List.range 10).flatMap fun k => [1, 2, 5].map fun (m : Int) => m * tenPow k

/-- The shortest step that is at least as long as `target` milliseconds; months are counted in 32
bits. -/
def atLeast (target : Int) : TimeStep :=
  match short.find? (target ≤ ·.length) with
  | some step => step
  | none =>
    let years := target.tdiv (365 * day)
    months (min (12 * (roundYears.find? (years ≤ ·)).getD 5000000000) maxInt32)

/-- The boundaries from `t` on that are not after `hi`, at most `fuel` of them. -/
def boundariesFrom (step : TimeStep) (hi : Int) : (fuel : Nat) → (t : Int) → List Int
  | 0, _ => []
  | fuel + 1, t =>
    if t ≤ hi then
      t :: (if t < step.next t then step.boundariesFrom hi fuel (step.next t) else [])
    else []

/-- The most ticks that an axis can have. -/
def maxTicks : Nat := 10000

/-- The boundaries between two timestamps. -/
def boundaries (step : TimeStep) (lo hi : Int) : List Int :=
  step.boundariesFrom hi maxTicks (step.ceil lo)

/-- The short name of a month. -/
def monthName (month : Nat) : String :=
  match month with
  | 1 => "Jan" | 2 => "Feb" | 3 => "Mar" | 4 => "Apr" | 5 => "May" | 6 => "Jun"
  | 7 => "Jul" | 8 => "Aug" | 9 => "Sep" | 10 => "Oct" | 11 => "Nov" | _ => "Dec"

/-- The label of a moment, as precise as the step asks for. -/
def momentLabel (step : TimeStep) (m : Moment) : String :=
  match step with
  | millis ms =>
    if ms < second then Timestamp.secondText m.second ++ "." ++ Timestamp.padded 3 m.milli
    else if ms < minute then Timestamp.secondText m.second
    else if ms < day then Timestamp.minuteText m.second
    else monthName m.date.month ++ " " ++ Timestamp.padded 2 m.date.day
  | week => monthName m.date.month ++ " " ++ Timestamp.padded 2 m.date.day
  | months n =>
    if n < 12 then monthName m.date.month ++ " " ++ Timestamp.yearText m.date.year
    else Timestamp.yearText m.date.year

/-- The label of a timestamp in a supported year. -/
def label? (step : TimeStep) (t : Int) : Option String :=
  (Moment.ofTimestamp? t).map step.momentLabel

end TimeStep

end Charting
