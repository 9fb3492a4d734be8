import Mathlib.Data.Nat.Sqrt
import Mathlib.Data.Rat.Defs
import Mathlib.Algebra.Order.Ring.Rat
import Charting.Numeric.Scalar

/-!
# Exact arithmetic

The scalar structure of the rationals: every operation is exact, except for square roots of numbers
that are no squares, which are rounded down.  Numeric laws of charts are stated over this instance.
-/

namespace Charting

namespace Exact

/-- The square root, rounded down to a multiple of the reciprocal of the denominator; exact on
squares in lowest terms, and zero below zero. -/
def sqrt (q : Rat) : Rat := mkRat (Nat.sqrt (q.num.toNat * q.den)) q.den

/-- The value of a decimal. -/
def ofDecimal (d : Decimal) : Rat :=
  let magnitude : Rat := if 0 ≤ d.exponent then (d.digits : Rat) * tenPow d.exponent.toNat
    else (d.digits : Rat) / tenPow (-d.exponent).toNat
  if d.negative then -magnitude else magnitude

/-- The decimal with seventeen significant digits nearest to a rational. -/
def toDecimal (q : Rat) : Decimal :=
  if q = 0 then ⟨false, 0, 0⟩
  else
    let exponent := decade q.num.natAbs q.den - 16
    let digits := if 0 ≤ exponent then roundHalfEven q.num.natAbs (q.den * tenPow exponent.toNat)
      else roundHalfEven (q.num.natAbs * tenPow (-exponent).toNat) q.den
    (Decimal.mk (q < 0) digits exponent).normalize

end Exact

instance : Scalar Rat where
  ofInt n := n
  isFinite _ := true
  isNaN _ := false
  abs q := if q < 0 then -q else q
  sqrt := Exact.sqrt
  floor q := q.floor
  ceil q := q.ceil
  round q := roundHalfAway q
  single q := q
  toInt64 q := clampInt64 (truncate q)
  decade q := decade q.num.natAbs q.den
  toRat? q := some q
  canonical q := q
  totalOrder a b := if a < b then .lt else if b < a then .gt else .eq
  ofNumeral?
    | .finite d => some (Exact.ofDecimal d)
    | _ => none
  toNumeral _ q := .finite (Exact.toDecimal q)

end Charting
