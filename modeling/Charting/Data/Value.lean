import Charting.Json.Printer
import Charting.Time.Timestamp

/-!
# Cell values

A cell of a dataset holds a number, a text, a time or nothing.  Texts that look like numbers or
dates can be read as such.  Values are compared in three ways: `Value.key` identifies values for
grouping, `Value.naturalOrder` sorts any two values, and `Value.compare?` is the comparison of
filters, which is undefined for values of unlike kinds.
-/

namespace Charting

/-- The content of a cell. -/
inductive Value (R : Type) where
  /-- No value. -/
  | null
  /-- A number. -/
  | number (x : R)
  /-- A text: a label, or a number or date that has not been read. -/
  | string (s : String)
  /-- A time, in milliseconds since 1970-01-01. -/
  | time (ms : Int)
deriving BEq, DecidableEq, Repr, Inhabited

namespace Value

variable {R : Type} [Scalar R]

/-- Whether there is no value. -/
def isNull : Value R → Bool
  | null => true
  | _ => false

/-- The numeric reading: texts are read as numbers, times as their milliseconds. -/
def toNumber? : Value R → Option R
  | null => none
  | number x => some x
  | string s => Scalar.read? (trimBlanks s.toList)
  | time ms => some (Scalar.ofInt ms)

/-- The numeric reading, if it is finite. -/
def toFinite? (v : Value R) : Option R := v.toNumber?.filter Scalar.isFinite

/-- The chronological reading in milliseconds: texts are read as dates, finite numbers are cut to
integers. -/
def toTime? : Value R → Option Int
  | null => none
  | number x => if Scalar.isFinite x then some (Scalar.toInt64 x) else none
  | string s => Timestamp.read? s
  | time ms => some ms

/-- The representative of all values that count as the same. -/
def key : Value R → Value R
  | number x => number (Scalar.canonical x)
  | v => v

/-- The place of a kind of values in the natural order. -/
def rank : Value R → Nat
  | number _ => 0
  | time _ => 1
  | string _ => 2
  | null => 3

/-- Numbers by size, times by date, texts by their characters; unlike kinds as numbers, times, texts
and missing values. -/
def naturalOrder : Value R → Value R → Ordering
  | number x, number y => Scalar.totalOrder x y
  | time s, time t => compare s t
  | string s, string t => compare s t
  | v, w => compare v.rank w.rank

/-- The comparison of filters.  If either side is a time, both are read as times; else if both can
be read as numbers, they are compared as such; else two texts are compared by their characters. -/
def compare? (v w : Value R) : Option Ordering :=
  match v, w with
  | null, _ => none
  | _, null => none
  | time s, w => w.toTime?.map (compare s)
  | v, time t => v.toTime?.map (compare · t)
  | v, w =>
    match v.toNumber?, w.toNumber? with
    | some x, some y => Scalar.compare? x y
    | _, _ =>
      match v, w with
      | string s, string t => some (compare s t)
      | _, _ => none

/-- The text of a value: numbers in full with their shortest digits, both zeros as `0`. -/
def text : Value R → String
  | null => "null"
  | number x => if x == Scalar.ofInt 0 then "0" else Scalar.text x
  | string s => s
  | time ms => Timestamp.text ms

/-- A JSON value as a cell: truth values and containers become texts. -/
def ofJson : Json R → Value R
  | .null => null
  | .bool b => string (if b then "true" else "false")
  | .integer n => number (Scalar.ofInt n)
  | .real x => number x
  | .string s => string s
  | j => string j.text

end Value

end Charting
