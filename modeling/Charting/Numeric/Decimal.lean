/-!
# Decimal numerals

A `Decimal` is a signed integer times a power of ten, the sign kept apart so that negative zero is a
numeral of its own.  A `Numeral` is a decimal, an infinity or "not a number".

Two layouts are given: `Decimal.positional` never uses an exponent, and `Decimal.scientific` turns
to one for very large and very small magnitudes.  `Numeral.read?` reads the usual notation back.
-/

namespace Charting

/-- The numeral `± digits × 10 ^ exponent`. -/
structure Decimal where
  /-- Whether the numeral carries a minus sign. -/
  negative : Bool
  /-- All digits, read as one natural number. -/
  digits : Nat
  /-- The power of ten that scales the digits. -/
  exponent : Int
deriving DecidableEq, Repr, Inhabited

/-- What can be written where a number is expected. -/
inductive Numeral where
  /-- An ordinary decimal. -/
  | finite (d : Decimal)
  /-- An infinity of either sign. -/
  | infinite (negative : Bool)
  /-- The result of an operation without a value. -/
  | undefined
deriving DecidableEq, Repr, Inhabited

/-- Which of two numerals is taken where both are equally near and equally short. -/
inductive TieRule where
  /-- The one of greater magnitude. -/
  | away
  /-- The one whose last digit is even. -/
  | toEven
deriving DecidableEq, Repr, Inhabited

/-- Whether a tie between `n` and `n + 1` goes to `n + 1`. -/
def TieRule.goesUp (tie : TieRule) (n : Nat) : Bool :=
  match tie with
  | away => true
  | toEven => n % 2 == 1

/-- The power `10 ^ n`. -/
def tenPow (n : Nat) : Nat := Nat.pow 10 n

/-- The number of decimal digits of `n`; zero has one digit. -/
def digitCount (n : Nat) : Nat := (Nat.toDigits 10 n).length

/-- The greatest `k` with `10 ^ k * den ≤ num`, for positive `num` and `den`. -/
def decade (num den : Nat) : Int :=
  if den ≤ num then
    (digitCount (num / den) - 1 : Nat)
  else
    let k := digitCount (den / num) - 1
    if den ≤ num * tenPow k then -(k : Int) else -(k : Int) - 1

/-- A run of `n` zeros. -/
def zeros (n : Nat) : List Char := List.replicate n '0'

namespace Decimal

/-- Drops trailing zeros of `n`, counting them into the exponent; `fuel` bounds their number. -/
def stripZeros : (fuel : Nat) → Nat → Int → Nat × Int
  | 0, n, e => (n, e)
  | fuel + 1, n, e => if n % 10 = 0 ∧ n ≠ 0 then stripZeros fuel (n / 10) (e + 1) else (n, e)

/-- The same value without trailing zeros; zero has exponent zero. -/
def normalize (d : Decimal) : Decimal :=
  if d.digits = 0 then ⟨d.negative, 0, 0⟩
  else
    let (n, e) := stripZeros (digitCount d.digits) d.digits d.exponent
    ⟨d.negative, n, e⟩

/-- The sign as it is printed. -/
def sign (d : Decimal) : List Char := if d.negative then ['-'] else []

/-- The magnitude with all its places written out. -/
def magnitude (digits : Nat) (exponent : Int) : List Char :=
  let ds := Nat.toDigits 10 digits
  if 0 ≤ exponent then
    if digits = 0 then ds else ds ++ zeros exponent.toNat
  else
    let places := (-exponent).toNat
    if places < ds.length then
      ds.take (ds.length - places) ++ '.' :: ds.drop (ds.length - places)
    else
      '0' :: '.' :: zeros (places - ds.length) ++ ds

/-- All places written out, whatever the exponent. -/
def positional (d : Decimal) : String :=
  String.ofList (d.sign ++ magnitude d.digits d.exponent)

/-- One digit, the remaining digits after a point, and the exponent with its sign. -/
def exponential (digits : Nat) (exponent : Int) : List Char :=
  let ds := Nat.toDigits 10 digits
  let power := exponent + (ds.length - 1 : Nat)
  let mantissa := match ds with
    | d :: [] => [d]
    | d :: rest => d :: '.' :: rest
    | [] => []
  let sign := if power < 0 then '-' else '+'
  mantissa ++ 'e' :: sign :: Nat.toDigits 10 power.natAbs

/-- Places are written out while the point stands at most sixteen digits to the right or four zeros
to the left of the first digit; an integral value keeps a fraction of one zero. -/
def scientific (d : Decimal) : String :=
  let point := d.exponent + digitCount d.digits
  let body :=
    if d.digits = 0 then ['0', '.', '0']
    else if -5 < point ∧ point ≤ 16 then
      magnitude d.digits d.exponent ++ (if 0 ≤ d.exponent then ['.', '0'] else [])
    else exponential d.digits d.exponent
  String.ofList (d.sign ++ body)

end Decimal

/-! ## Reading -/

/-- The value of a digit. -/
def digit? (c : Char) : Option Nat :=
  if c.isDigit then some (c.toNat - '0'.toNat) else none

/-- The number that a run of digits stands for, after the digits already read as `n`. -/
def readDigits (n : Nat) (ds : List Char) : Nat :=
  ds.foldl (fun n c => 10 * n + (c.toNat - '0'.toNat)) n

/-- Splits an optional sign off the text; the first component tells a minus. -/
def splitSign : List Char → Bool × List Char
  | '-' :: rest => (true, rest)
  | '+' :: rest => (false, rest)
  | cs => (false, cs)

/-- An exponent part: nothing, or `e` followed by an optional sign and at least one digit. -/
def readExponent? : List Char → Option Int
  | [] => some 0
  | c :: rest =>
    if c = 'e' ∨ c = 'E' then
      let (negative, ds) := splitSign rest
      if ds ≠ [] ∧ ds.all Char.isDigit then
        let n : Int := readDigits 0 ds
        some (if negative then -n else n)
      else none
    else none

/-- Digits with at most one point among them and an optional exponent. -/
def Decimal.readUnsigned? (negative : Bool) (cs : List Char) : Option Decimal :=
  let whole := cs.takeWhile Char.isDigit
  let rest := cs.dropWhile Char.isDigit
  let (fraction, rest) := match rest with
    | '.' :: rest => (rest.takeWhile Char.isDigit, rest.dropWhile Char.isDigit)
    | rest => ([], rest)
  if whole = [] ∧ fraction = [] then none
  else do
    let e ← readExponent? rest
    some ⟨negative, readDigits (readDigits 0 whole) fraction, e - fraction.length⟩

/-- The usual notation: an optional sign, then `inf`, `infinity` or `nan` in any case, or digits
with an optional point and an optional exponent.  The whole text must match. -/
def Numeral.read? (cs : List Char) : Option Numeral :=
  let (negative, body) := splitSign cs
  let word := String.ofList (body.map Char.toLower)
  if word = "inf" ∨ word = "infinity" then some (.infinite negative)
  else if word = "nan" then some .undefined
  else (Decimal.readUnsigned? negative body).map .finite

/-- The numeral with all places written out; the other two are words. -/
def Numeral.positional : Numeral → String
  | .finite d => d.positional
  | .infinite negative => if negative then "-inf" else "inf"
  | .undefined => "NaN"

end Charting
