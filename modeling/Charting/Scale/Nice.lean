import Charting.Numeric.Scalar

/-!
# Nice numbers

Ticks stand at multiples of a nice step: one, two, five or ten times a power of ten.  `niceDomain`
extends an interval outwards to such multiples, and `linearTicks` lists those inside an interval.
-/

namespace Charting

/-- The step `factor × 10 ^ power`. -/
structure NiceStep (R : Type) where
  /-- One, two, five or ten. -/
  factor : R
  /-- The power of ten. -/
  power : Int
deriving Repr

variable {R : Type} [Scalar R]

/-- Rounds a quotient up or down, where one that is an integer but for noise counts as
that integer. -/
def snap (q : R) (up : Bool) : R :=
  let r := Scalar.round q
  if Scalar.abs (q - r) < 1e-9 then r
  else if up then Scalar.ceil q
  else Scalar.floor q

namespace NiceStep

/-- The length of a step. -/
def value (s : NiceStep R) : R :=
  if 0 ≤ s.power then s.factor * Scalar.pow10 s.power.toNat
  else s.factor / Scalar.pow10 (-s.power).toNat

/-- So many steps.  Dividing by a power of ten, and not multiplying by its inverse, makes three
steps of a tenth come out as the number nearest to three tenths. -/
def times (s : NiceStep R) (k : R) : R :=
  if 0 ≤ s.power then k * s.value
  else k * s.factor / Scalar.pow10 (-s.power).toNat

/-- How many steps make up a length. -/
def quotient (s : NiceStep R) (x : R) : R :=
  if 0 ≤ s.power then x / s.value
  else x * Scalar.pow10 (-s.power).toNat / s.factor

/-- The last multiple that is not above `x`, but for noise. -/
def floor (s : NiceStep R) (x : R) : R := s.times (snap (s.quotient x) false)

/-- The first multiple that is not below `x`, but for noise. -/
def ceil (s : NiceStep R) (x : R) : R := s.times (snap (s.quotient x) true)

/-- The nice step near a positive length. -/
def near? (length : R) : Option (NiceStep R) :=
  if !Scalar.isFinite length || length ≤ 0.0 then none
  else
    let power := Scalar.decade length
    let ratio := length / value ⟨1.0, power⟩
    let factor : R :=
      if (7.5 : R) ≤ ratio then 10.0
      else if (3.5 : R) ≤ ratio then 5.0
      else if (1.5 : R) ≤ ratio then 2.0
      else 1.0
    some ⟨factor, power⟩

end NiceStep

/-- The number of intervals as a divisor, at least one. -/
def intervals (count : Nat) : R := Scalar.ofNat (max count 1)

/-- The rounds of extension, until nothing changes or the fuel is spent. -/
def extendNice (count : Nat) : (fuel : Nat) → R → R → R × R
  | 0, lo, hi => (lo, hi)
  | fuel + 1, lo, hi =>
    match NiceStep.near? ((hi - lo) / intervals count) with
    | none => (lo, hi)
    | some step =>
      let lo' := step.floor lo
      let hi' := step.ceil hi
      if lo' == lo && hi' == hi then (lo, hi) else extendNice count fuel lo' hi'

/-- The most rounds of extension. -/
def niceRounds : Nat := 10

/-- The interval extended to multiples of a nice step near one `count`-th of it.  Extending can make
the step longer, so this is repeated. -/
def niceDomain (min max : R) (count : Nat) : R × R :=
  if !Scalar.isFinite min || !Scalar.isFinite max || max ≤ min then (min, max)
  else extendNice count niceRounds min max

/-- The multiples of a nice step near one `count`-th of an interval that lie inside it, at most ten
thousand and one. -/
def linearTicks (min max : R) (count : Nat) : List R :=
  let (min, max) := if min ≤ max then (min, max) else (max, min)
  if count = 0 || !Scalar.isFinite min || !Scalar.isFinite max then []
  else if min == max then [min]
  else
    match NiceStep.near? ((max - min) / intervals count) with
    | none => [min, max]
    | some step =>
      let first := snap (step.quotient min) true
      let last := snap (step.quotient max) false
      let n := (Scalar.toInt64 (Scalar.round (Scalar.clamp (last - first) 0.0 10000.0))).toNat
      (List.range (n + 1)).map fun i => step.times (first + Scalar.ofNat i)

end Charting
