import Charting.Numeric.Scalar

/-!
# Linear maps

The map of one interval onto another in which equal differences stay equal.
-/

namespace Charting

/-- A linear map between intervals. -/
structure LinearScale (R : Type) where
  /-- The interval that is mapped. -/
  domain : R × R
  /-- The interval that it is mapped onto. -/
  range : R × R

/-- The image of a number.  An interval of one number is mapped to the middle of the range. -/
def LinearScale.map {R : Type} [Scalar R] (s : LinearScale R) (x : R) : R :=
  let (d₀, d₁) := s.domain
  let (r₀, r₁) := s.range
  let length := d₁ - d₀
  if length == 0.0 then 0.5 * (r₀ + r₁)
  else
    let t := (x - d₀) / length
    r₀ + t * (r₁ - r₀)

end Charting
