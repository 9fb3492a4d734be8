import Charting.Numeric.Scalar

/-!
# Double precision

The scalar structure of binary floating point.  A finite double is `± significand × 2 ^ exponent`;
all roundings to integers and the shortest numeral are computed from that form in exact integer
arithmetic.
-/

namespace Charting

/-- The power `2 ^ n`. -/
def twoPow (n : Nat) : Nat := Nat.pow 2 n

/-- The value `± significand × 2 ^ exponent`. -/
structure Binary where
  /-- Whether the sign bit is set. -/
  negative : Bool
  /-- The integer that is scaled. -/
  significand : Nat
  /-- The power of two that scales it. -/
  exponent : Int
deriving DecidableEq, Repr

namespace Binary

/-- Numerator and denominator of the magnitude. -/
def ratio (b : Binary) : Nat × Nat :=
  if 0 ≤ b.exponent then (b.significand * twoPow b.exponent.toNat, 1)
  else (b.significand, twoPow (-b.exponent).toNat)

/-- The exact value. -/
def toRat (b : Binary) : Rat :=
  let (num, den) := b.ratio
  mkRat (if b.negative then -(num : Int) else num) den

/-- The parts of a double, if it is finite. -/
def ofFloat? (x : Float) : Option Binary :=
  let bits : Nat := x.toBits.toNat
  let negative : Bool := bits / twoPow 63 == 1
  let biased : Nat := bits / twoPow 52 % twoPow 11
  let fraction : Nat := bits % twoPow 52
  if biased = 2047 then none
  else if biased = 0 then some ⟨negative, fraction, -1074⟩
  else some ⟨negative, twoPow 52 + fraction, (biased : Int) - 1075⟩

/-- Whether the next double toward zero is only half as far away as the next one outward. -/
def isPowerOfTwo (b : Binary) : Bool := b.significand == twoPow 52 && b.exponent != -1074

end Binary

/-! ## Shortest numerals

The reals that round to a double form an interval around it, whose ends belong to it exactly if the
significand is even.  A numeral reads back if it lies in that interval. -/

/-- The interval of a double, scaled so that its ends, its middle and the unit `scale`
are integers. -/
structure RoundingInterval where
  /-- The lower end. -/
  low : Nat
  /-- The double itself. -/
  middle : Nat
  /-- The upper end. -/
  high : Nat
  /-- The integer that stands for one. -/
  scale : Nat
  /-- Whether the ends belong to the interval. -/
  closed : Bool

namespace RoundingInterval

/-- The interval of a positive double. -/
def ofBinary (b : Binary) : RoundingInterval :=
  let (unit, scale) : Nat × Nat :=
    if 2 ≤ b.exponent then (twoPow (b.exponent - 2).toNat, 1)
    else (1, twoPow (2 - b.exponent).toNat)
  let middle := 4 * b.significand * unit
  { low := middle - (if b.isPowerOfTwo then unit else 2 * unit)
    middle := middle
    high := middle + 2 * unit
    scale := scale
    closed := b.significand % 2 == 0 }

/-- Whether the point `x / scale` lies in the interval. -/
def contains (r : RoundingInterval) (x : Nat) : Bool :=
  if r.closed then r.low ≤ x && x ≤ r.high else r.low < x && x < r.high

/-- The same interval after multiplication by `10 ^ k`. -/
def shift (r : RoundingInterval) (k : Int) : RoundingInterval :=
  if 0 ≤ k then
    let p := tenPow k.toNat
    { r with low := r.low * p, middle := r.middle * p, high := r.high * p }
  else { r with scale := r.scale * tenPow (-k).toNat }

/-- Whether the middle is nearer to `n + 1` than to `n`, the two integers around it. -/
def isNearerAbove (r : RoundingInterval) (tie : TieRule) (n : Nat) : Bool :=
  let twice := 2 * (r.middle % r.scale)
  r.scale < twice || (twice == r.scale && tie.goesUp n)

/-- The integer of the interval nearest to its middle, if it holds one. -/
def nearestInteger? (r : RoundingInterval) (tie : TieRule) : Option Nat :=
  let below := r.middle / r.scale
  match r.contains (below * r.scale), r.contains ((below + 1) * r.scale) with
  | true, true => some (if r.isNearerAbove tie below then below + 1 else below)
  | true, false => some below
  | false, true => some (below + 1)
  | false, false => none

/-- The coarsest decimal grid with a point in the interval, searched from exponent `k` downwards. -/
def shortest (r : RoundingInterval) (tie : TieRule) : (fuel : Nat) → (k : Int) → Nat × Int
  | 0, k => (r.middle * tenPow (-k).toNat / r.scale, k)
  | fuel + 1, k =>
    match (r.shift (-k)).nearestInteger? tie with
    | some n => (n, k)
    | none => r.shortest tie fuel (k - 1)

end RoundingInterval

/-- The shortest decimal that reads back as the given double. -/
def Binary.shortest (b : Binary) (tie : TieRule) : Decimal :=
  if b.significand = 0 then ⟨b.negative, 0, 0⟩
  else
    let (num, den) := b.ratio
    let (digits, exponent) := (RoundingInterval.ofBinary b).shortest tie 17 (decade num den)
    (Decimal.mk b.negative digits exponent).normalize

namespace Double

/-- Replaces a finite double by an integer near it; a zero keeps the sign of what it replaces. -/
def roundBy (f : Rat → Int) (x : Float) : Float :=
  match Binary.ofFloat? x with
  | none => x
  | some b =>
    if 0 ≤ b.exponent then x
    else
      let n := f b.toRat
      if n = 0 then (if b.negative then -0.0 else 0.0) else Float.ofInt n

/-- The integer toward zero, clamped to the range of signed 64-bit integers. -/
def toInt64 (x : Float) : Int :=
  match Binary.ofFloat? x with
  | some b => clampInt64 (truncate b.toRat)
  | none => if x.isNaN then 0 else if x < 0 then minInt64 else maxInt64

/-- The power of ten at or below a positive double, from its logarithm: a double that differs from a
power of ten by no more than the rounding of the logarithm counts as that power. -/
def decade (x : Float) : Int := toInt64 (roundBy Rat.floor (Float.log10 x))

/-- Orders doubles as their bit patterns, read as sign and magnitude. -/
def orderKey (x : Float) : Int :=
  let bits := x.toBits.toNat
  if bits < twoPow 63 then bits else maxInt64 - bits

/-- The double nearest to a decimal; beyond the range it is an infinity, and far below it zero. -/
def ofDecimal (d : Decimal) : Float :=
  let point := d.exponent + digitCount d.digits
  let magnitude :=
    if d.digits = 0 ∨ point < -400 then 0.0
    else if 400 < point then 1.0 / 0.0
    else OfScientific.ofScientific d.digits (d.exponent < 0) d.exponent.natAbs
  if d.negative then -magnitude else magnitude

/-- The double nearest to a numeral. -/
def ofNumeral : Numeral → Float
  | .finite d => ofDecimal d
  | .infinite negative => if negative then -(1.0 / 0.0) else 1.0 / 0.0
  | .undefined => 0.0 / 0.0

/-- The shortest numeral of a double. -/
def toNumeral (tie : TieRule) (x : Float) : Numeral :=
  match Binary.ofFloat? x with
  | some b => .finite (b.shortest tie)
  | none => if x.isNaN then .undefined else .infinite (x < 0)

end Double

instance : Scalar Float where
  ofInt := Float.ofInt
  isFinite := Float.isFinite
  isNaN := Float.isNaN
  abs := Float.abs
  sqrt := Float.sqrt
  floor := Double.roundBy Rat.floor
  ceil := Double.roundBy Rat.ceil
  round := Double.roundBy roundHalfAway
  single x := x.toFloat32.toFloat
  toInt64 := Double.toInt64
  decade := Double.decade
  toRat? x := (Binary.ofFloat? x).map Binary.toRat
  canonical x := if x == 0.0 then 0.0 else if x.isNaN then 0.0 / 0.0 else x
  totalOrder a b := compare (Double.orderKey a) (Double.orderKey b)
  ofNumeral? n := some (Double.ofNumeral n)
  toNumeral := Double.toNumeral

end Charting
