import Charting.Numeric.Scalar
import Charting.Time.Step

/-!
# Time domains

Domains and ticks of time scales.  The ends of a domain are numbers of milliseconds, which are cut
to integers before calendars come into it.
-/

namespace Charting

variable {R : Type} [Scalar R]

/-- The shortest step that is at least as long as one `count`-th of a span. -/
def timeStep (span : R) (count : Nat) : TimeStep :=
  TimeStep.atLeast (Scalar.toInt64 (span / Scalar.ofNat (max count 1)))

/-- The rounds of extension to step boundaries, until nothing changes or the fuel is spent. -/
def extendTime (R : Type) [Scalar R] (count : Nat) : (fuel : Nat) → Int → Int → Int × Int
  | 0, lo, hi => (lo, hi)
  | fuel + 1, lo, hi =>
    let step := timeStep (Scalar.ofInt (wrapInt64 (hi - lo)) : R) count
    let lo' := step.floor lo
    let hi' := step.ceil hi
    if lo' = lo ∧ hi' = hi then (lo, hi) else extendTime R count fuel lo' hi'

/-- The most rounds of extension. -/
def timeRounds : Nat := 10

/-- The interval extended to boundaries of a step of about one `count`-th of it. -/
def niceTimeDomain (min max : R) (count : Nat) : R × R :=
  if !Scalar.isFinite min || !Scalar.isFinite max || max ≤ min then (min, max)
  else
    let (lo, hi) := extendTime R count timeRounds (Scalar.toInt64 min) (Scalar.toInt64 max)
    (Scalar.ofInt lo, Scalar.ofInt hi)

/-- The step of the ticks of an interval, and the ticks. -/
def timeTicks (min max : R) (count : Nat) : TimeStep × List R :=
  let (min, max) := if min ≤ max then (min, max) else (max, min)
  let step := timeStep (max - min) count
  if !Scalar.isFinite min || !Scalar.isFinite max || count = 0 then (step, [])
  else
    (step, (step.boundaries (Scalar.toInt64 min) (Scalar.toInt64 max)).map Scalar.ofInt)

/-- The label of a tick; a time of an unsupported year has its number. -/
def timeLabel (step : TimeStep) (x : R) : String :=
  (step.label? (Scalar.toInt64 x)).getD (Scalar.text x)

end Charting
