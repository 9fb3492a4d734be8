import Charting.Numeric.Scalar

/-!
# Labels of numeric ticks

A label has as many decimals as it takes to tell neighbouring ticks apart, but at most twelve.
-/

namespace Charting

variable {R : Type} [Scalar R]

/-- The least power of ten that makes a step an integer but for noise, counted from `d`. -/
def decimalsFrom : (fuel : Nat) → (d : Nat) → R → Nat
  | 0, d, _ => d
  | fuel + 1, d, s =>
    if 1e-9 * Scalar.max s 1.0 < Scalar.abs (s - Scalar.round s) then
      decimalsFrom fuel (d + 1) (s * 10.0)
    else d

/-- The most decimals of a label. -/
def maxDecimals : Nat := 12

/-- The decimals that a step needs. -/
def decimalsForStep (step : R) : Nat :=
  let step := Scalar.abs step
  if !Scalar.isFinite step || step == 0.0 || (1.0 : R) ≤ step then 0
  else decimalsFrom maxDecimals 0 step

/-- The label of a tick among ticks a step apart; what rounds to zero has no sign. -/
def tickLabel (x step : R) : String :=
  if !Scalar.isFinite x then Scalar.text x
  else
    let decimals := decimalsForStep step
    let x := if Scalar.abs x < 0.5 * Scalar.invPow10 decimals then Scalar.ofInt 0 else x
    Scalar.fixed decimals x

/-- The distances between neighbours. -/
def gaps : List R → List R
  | x :: y :: rest => Scalar.abs (y - x) :: gaps (y :: rest)
  | _ => []

/-- The least distance between neighbouring ticks, zero if there are no two or it is not finite. -/
def tickStep (ticks : List R) : R :=
  match gaps ticks with
  | [] => 0.0
  | gap :: rest =>
    let step := rest.foldl Scalar.min gap
    if Scalar.isFinite step then step else 0.0

end Charting
