import Charting.Numeric.Rounding

/-!
# Scalars

`Scalar R` collects what the rest of the library needs of a number: the field operations,
comparison, a few roundings, and reading and writing of numerals.  Nothing is assumed about the
operations here, so that binary floating point and exact rationals are both instances: charts are
drawn with the former, and numeric laws are stated over the latter.
-/

namespace Charting

/-- A type of numbers that charts can be computed with. -/
class Scalar (R : Type) extends
    Add R, Sub R, Mul R, Div R, Neg R, LT R, LE R, BEq R, OfScientific R where
  /-- The strict order can be tested. -/
  [decLT : DecidableLT R]
  /-- The order can be tested. -/
  [decLE : DecidableLE R]
  /-- Being the very same number can be tested; `==` is the comparison of numeric values. -/
  [decEq : DecidableEq R]
  /-- The nearest number to an integer. -/
  ofInt : Int → R
  /-- Neither infinite nor undefined. -/
  isFinite : R → Bool
  /-- The result of an operation without a value. -/
  isNaN : R → Bool
  /-- The magnitude. -/
  abs : R → R
  /-- The square root. -/
  sqrt : R → R
  /-- The greatest integer below. -/
  floor : R → R
  /-- The least integer above. -/
  ceil : R → R
  /-- The nearest integer; a half goes away from zero. -/
  round : R → R
  /-- The nearest number of single precision. -/
  single : R → R
  /-- The integer toward zero, clamped to the range of signed 64-bit integers; zero if undefined. -/
  toInt64 : R → Int
  /-- The greatest `k` with `10 ^ k` at most the given positive finite number, but for rounding. -/
  decade : R → Int
  /-- The value as a rational, if it is finite. -/
  toRat? : R → Option Rat
  /-- The representative of all numbers that count as the same value: both zeros are one value, and
  so are all undefined results. -/
  canonical : R → R
  /-- A total order that agrees with `<`, also on zeros of either sign and on undefined results. -/
  totalOrder : R → R → Ordering
  /-- The nearest number to a numeral, if the numeral has a value of this kind. -/
  ofNumeral? : Numeral → Option R
  /-- The numeral nearest to the number among the shortest that read back; a tie goes as told. -/
  toNumeral : TieRule → R → Numeral

namespace Scalar

variable {R : Type} [Scalar R]

instance (priority := low) (a b : R) : Decidable (a < b) := Scalar.decLT a b

instance (priority := low) (a b : R) : Decidable (a ≤ b) := Scalar.decLE a b

instance (priority := low) : DecidableEq R := Scalar.decEq

/-- The nearest number to a natural number. -/
def ofNat (n : Nat) : R := ofInt n

instance : Inhabited R := ⟨ofInt 0⟩

/-- The lesser of two numbers, of equal ones the second; an undefined operand is ignored. -/
def min (a b : R) : R := if b ≤ a then b else if isNaN a then b else a

/-- The greater of two numbers, of equal ones the second; an undefined operand is ignored. -/
def max (a b : R) : R := if b ≥ a then b else if isNaN a then b else a

/-- `x` moved into the interval from `lo` to `hi`; an undefined `x` stays. -/
def clamp (x lo hi : R) : R := if x < lo then lo else if x > hi then hi else x

/-- The power `10 ^ n`. -/
def pow10 (n : Nat) : R := OfScientific.ofScientific 1 false n

/-- The power `10 ^ (-n)`. -/
def invPow10 (n : Nat) : R := OfScientific.ofScientific 1 true n

/-- The numeric order, where the two numbers compare at all. -/
def compare? (a b : R) : Option Ordering :=
  if a < b then some .lt else if a > b then some .gt else if a == b then some .eq else none

/-- Reads a number written in the usual notation, a word for an infinity included. -/
def read? (s : List Char) : Option R := (Numeral.read? s).bind ofNumeral?

/-- The shortest text that reads back, with all places written out; a tie goes away from zero. -/
def text (x : R) : String := (toNumeral .away x).positional

/-- The text with a fixed number of places; a number without a value has its word. -/
def fixed (places : Nat) (x : R) : String :=
  match toRat? x with
  | some q => fixedPlaces places q
  | none => text x

end Scalar

end Charting
