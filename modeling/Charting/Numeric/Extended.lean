import Mathlib.Order.WithBot
import Charting.Numeric.Exact

/-!
# Exact arithmetic with infinities

The scalar structure of the rationals together with two infinities and an undefined result, as
binary floating point has them.  Finite numbers are computed with exactly; there is one zero, which
is not signed.
-/

namespace Charting

/-- A rational, an infinity, or the result of an operation without a value. -/
inductive Extended where
  /-- A rational. -/
  | finite (q : Rat)
  /-- An infinity of either sign. -/
  | infinite (negative : Bool)
  /-- The result of an operation without a value. -/
  | undefined
deriving DecidableEq, Repr

namespace Extended

/-- The place of a number on the extended line, if it has a value. -/
def rank? : Extended → Option (WithBot (WithTop Rat))
  | finite q => some (WithBot.some (WithTop.some q))
  | infinite false => some (WithBot.some ⊤)
  | infinite true => some ⊥
  | undefined => none

/-- Whether both numbers have a value, and the first one is not greater. -/
def isLE (a b : Extended) : Bool :=
  match a.rank?, b.rank? with
  | some x, some y => x ≤ y
  | _, _ => false

/-- Applies a function to a rational, and leaves anything else alone. -/
def mapFinite (f : Rat → Rat) : Extended → Extended
  | finite q => finite (f q)
  | a => a

/-- The opposite number. -/
def neg : Extended → Extended
  | finite q => finite (-q)
  | infinite negative => infinite !negative
  | undefined => undefined

/-- The sum; opposite infinities have none. -/
def add : Extended → Extended → Extended
  | finite p, finite q => finite (p + q)
  | infinite s, infinite t => if s = t then infinite s else undefined
  | infinite s, finite _ => infinite s
  | finite _, infinite t => infinite t
  | undefined, _ => undefined
  | _, undefined => undefined

/-- The product; an infinity and zero have none. -/
def mul : Extended → Extended → Extended
  | finite p, finite q => finite (p * q)
  | infinite s, infinite t => infinite (s != t)
  | infinite s, finite q => if q = 0 then undefined else infinite (s != decide (q < 0))
  | finite p, infinite t => if p = 0 then undefined else infinite (decide (p < 0) != t)
  | undefined, _ => undefined
  | _, undefined => undefined

/-- The reciprocal. -/
def inv : Extended → Extended
  | finite q => if q = 0 then infinite false else finite q⁻¹
  | infinite _ => finite 0
  | undefined => undefined

/-- The magnitude. -/
def abs : Extended → Extended
  | finite q => finite (Scalar.abs q)
  | infinite _ => infinite false
  | undefined => undefined

/-- The square root; a negative number has none. -/
def sqrt : Extended → Extended
  | finite q => if q < 0 then undefined else finite (Exact.sqrt q)
  | infinite negative => if negative then undefined else infinite false
  | undefined => undefined

/-- The integer toward zero, clamped to the range of signed 64-bit integers; zero if undefined. -/
def toInt64 : Extended → Int
  | finite q => Scalar.toInt64 q
  | infinite negative => if negative then minInt64 else maxInt64
  | undefined => 0

/-- A total order with undefined results above all numbers. -/
def totalOrder (a b : Extended) : Ordering :=
  match a.rank?, b.rank? with
  | some x, some y => if x < y then .lt else if y < x then .gt else .eq
  | some _, none => .lt
  | none, some _ => .gt
  | none, none => .eq

/-- The number that a numeral stands for. -/
def ofNumeral : Numeral → Extended
  | .finite d => finite (Exact.ofDecimal d)
  | .infinite negative => infinite negative
  | .undefined => undefined

/-- The numeral of a number. -/
def toNumeral : Extended → Numeral
  | finite q => .finite (Exact.toDecimal q)
  | infinite negative => .infinite negative
  | undefined => .undefined

instance : Scalar Extended where
  add := add
  sub a b := add a b.neg
  mul := mul
  div a b := mul a b.inv
  neg := neg
  lt a b := isLE a b = true ∧ isLE b a = false
  le a b := isLE a b = true
  beq a b := isLE a b && isLE b a
  ofScientific digits negative exponent :=
    finite (OfScientific.ofScientific digits negative exponent)
  decLT _ _ := inferInstanceAs (Decidable (_ ∧ _))
  decLE _ _ := inferInstanceAs (Decidable (_ = _))
  ofInt n := finite n
  isFinite
    | finite _ => true
    | _ => false
  isNaN a := a = undefined
  abs := abs
  sqrt := sqrt
  floor := mapFinite Scalar.floor
  ceil := mapFinite Scalar.ceil
  round := mapFinite Scalar.round
  single := id
  toInt64 := toInt64
  decade
    | finite q => Scalar.decade q
    | a => a.toInt64
  toRat?
    | finite q => some q
    | _ => none
  canonical := id
  totalOrder := totalOrder
  ofNumeral? n := some (ofNumeral n)
  toNumeral _ := toNumeral

end Extended

end Charting
