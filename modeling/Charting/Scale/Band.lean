import Charting.Numeric.Scalar

/-!
# Bands

An interval cut into bands of equal width, with gaps between them and at both ends.
-/

namespace Charting

/-- A sequence of bands. -/
structure BandScale (R : Type) where
  /-- The interval that is cut. -/
  range : R × R
  /-- The number of bands. -/
  count : Nat
  /-- The gap between bands, in widths of a band. -/
  inner : R
  /-- The gap at both ends, in widths of a band. -/
  outer : R

namespace BandScale

variable {R : Type} [Scalar R]

/-- Bands with gaps of a tenth of their width. -/
def ofCount (range : R × R) (count : Nat) : BandScale R := ⟨range, count, 0.1, 0.1⟩

/-- Bands with the given gaps, which cannot be negative. -/
def withPadding (s : BandScale R) (inner outer : R) : BandScale R :=
  { s with inner := Scalar.max inner 0.0, outer := Scalar.max outer 0.0 }

/-- The width of a band; zero if there is none. -/
def width (s : BandScale R) : R :=
  if s.count = 0 then 0.0
  else
    let (r₀, r₁) := s.range
    let n : R := Scalar.ofNat s.count
    let length := Scalar.abs (r₁ - r₀)
    let units := n + s.inner * (n - 1.0) + 2.0 * s.outer
    if units == 0.0 then 0.0 else length / units

/-- Where a band begins.  The first band is at the lower end of the range, whatever
its direction. -/
def start (s : BandScale R) (index : Nat) : R :=
  let (r₀, r₁) := s.range
  let width := s.width
  let step := width * (1.0 + s.inner)
  let lower := if r₀ ≤ r₁ then r₀ else r₁
  lower + width * s.outer + step * Scalar.ofNat index

end BandScale

end Charting
