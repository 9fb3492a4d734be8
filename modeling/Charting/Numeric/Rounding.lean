import Charting.Numeric.Decimal

/-!
# Rounding of exact rationals

Rounding a rational to an integer, half away from zero, and writing a rational with a fixed number
of decimal places, half to even.
-/

namespace Charting

/-- The nearest integer; a half goes away from zero. -/
def roundHalfAway (q : Rat) : Int :=
  if 0 ≤ q then (q + 1 / 2).floor else -(-q + 1 / 2).floor

/-- The integer toward zero. -/
def truncate (q : Rat) : Int := q.num.tdiv q.den

/-- The least signed 64-bit integer. -/
def minInt64 : Int := -9223372036854775808

/-- The greatest signed 64-bit integer. -/
def maxInt64 : Int := 9223372036854775807

/-- Moves an integer into the range of signed 64-bit integers. -/
def clampInt64 (n : Int) : Int :=
  if n < minInt64 then minInt64 else if maxInt64 < n then maxInt64 else n

/-- What is left of an integer in 64 bits: beyond their range it starts again at the other end. -/
def wrapInt64 (n : Int) : Int := n.bmod 18446744073709551616

/-- What is left of a natural number in 64 bits. -/
def wrapNat64 (n : Nat) : Nat := n % 18446744073709551616

/-- The greatest signed 32-bit integer. -/
def maxInt32 : Int := 2147483647

/-- The nearest integer to `num / den`; a half goes to the even neighbour. -/
def roundHalfEven (num den : Nat) : Nat :=
  let quotient := num / den
  let twice := 2 * (num % den)
  if twice < den ∨ (twice = den ∧ quotient % 2 = 0) then quotient else quotient + 1

/-- `q` with exactly `places` digits after the point. -/
def fixedPlaces (places : Nat) (q : Rat) : String :=
  (Decimal.mk (q < 0) (roundHalfEven (q.num.natAbs * tenPow places) q.den) (-places)).positional

end Charting
