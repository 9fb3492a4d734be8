import Charting.Json.Draft

/-!
# Reading JSON

The grammar is strict: no text may follow the value, and strings hold no raw control characters.
`Json.readDraft?` reads every text of the grammar, and `Json.parse?` those of them in which every
part has a value: strings hold no unpaired surrogates, numbers are finite, and containers nest at
most 127 deep.
-/

namespace Charting

namespace Json

variable {R : Type} [Scalar R]

/-- The four characters that may stand between tokens. -/
def isSpace (c : Char) : Bool := c == ' ' || c == '\t' || c == '\n' || c == '\r'

/-- The text without the space in front. -/
def skipSpace (cs : List Char) : List Char := cs.dropWhile isSpace

/-- The value of a hexadecimal digit. -/
def hexDigit? (c : Char) : Option Nat :=
  if '0' ≤ c ∧ c ≤ '9' then some (c.toNat - '0'.toNat)
  else if 'a' ≤ c ∧ c ≤ 'f' then some (c.toNat - 'a'.toNat + 10)
  else if 'A' ≤ c ∧ c ≤ 'F' then some (c.toNat - 'A'.toNat + 10)
  else none

/-- The number of four hexadecimal digits. -/
def hexUnit? (a b c d : Char) : Option Nat := do
  let a ← hexDigit? a
  let b ← hexDigit? b
  let c ← hexDigit? c
  let d ← hexDigit? d
  some (((a * 16 + b) * 16 + c) * 16 + d)

/-- The character that a letter after a backslash stands for. -/
def escaped? (c : Char) : Option Char :=
  if c = '"' ∨ c = '\\' ∨ c = '/' then some c
  else if c = 'b' then some '\x08'
  else if c = 'f' then some '\x0c'
  else if c = 'n' then some '\n'
  else if c = 'r' then some '\r'
  else if c = 't' then some '\t'
  else none

/-! ## Strings -/

/-- A place of a string as it is written. -/
inductive StringPart where
  /-- A character, which stands for itself or is named by a letter after a backslash. -/
  | char (c : Char)
  /-- A unit of sixteen bits, given by its hexadecimal digits. -/
  | unit (n : Nat)

/-- The rest of a string after its opening quote. -/
def readString? : List Char → Option (List StringPart × List Char)
  | '"' :: rest => some ([], rest)
  | '\\' :: 'u' :: a :: b :: c :: d :: rest => do
    let n ← hexUnit? a b c d
    let (parts, rest) ← readString? rest
    some (.unit n :: parts, rest)
  | '\\' :: c :: rest => do
    let x ← escaped? c
    let (parts, rest) ← readString? rest
    some (.char x :: parts, rest)
  | c :: rest =>
    if c.toNat < 0x20 then none
    else do
      let (parts, rest) ← readString? rest
      some (.char c :: parts, rest)
  | [] => none

/-- Whether a unit is the first of a surrogate pair. -/
def isHighSurrogate (n : Nat) : Bool := 0xD800 ≤ n && n < 0xDC00

/-- Whether a unit is the second of a surrogate pair. -/
def isLowSurrogate (n : Nat) : Bool := 0xDC00 ≤ n && n < 0xE000

/-- The character of a surrogate pair. -/
def charOfPair (high low : Nat) : Char :=
  Char.ofNat (0x10000 + (high - 0xD800) * 0x400 + (low - 0xDC00))

/-- The characters of a string, where `high` is the first unit of a pair that has begun; none if a
surrogate has no partner. -/
def charsOf? : (high : Option Nat) → List StringPart → Option (List Char)
  | none, [] => some []
  | none, .char c :: rest => (charsOf? none rest).map (c :: ·)
  | none, .unit n :: rest =>
    if isHighSurrogate n then charsOf? (some n) rest
    else if isLowSurrogate n then none
    else (charsOf? none rest).map (Char.ofNat n :: ·)
  | some high, .unit n :: rest =>
    if isLowSurrogate n then (charsOf? none rest).map (charOfPair high n :: ·) else none
  | some _, _ => none

/-- The text of a string, if all its surrogates are paired. -/
def textOf? (parts : List StringPart) : Option String := (charsOf? none parts).map String.ofList

/-! ## Numbers -/

/-- The digits before the point: a single zero, or a run that begins with another digit. -/
def readWhole? : List Char → Option (List Char × List Char)
  | '0' :: rest => some (['0'], rest)
  | cs =>
    let ds := cs.takeWhile Char.isDigit
    if ds = [] then none else some (ds, cs.dropWhile Char.isDigit)

/-- A run of at least one digit. -/
def readRun? (cs : List Char) : Option (List Char × List Char) :=
  let ds := cs.takeWhile Char.isDigit
  if ds = [] then none else some (ds, cs.dropWhile Char.isDigit)

/-- The number nearest to a decimal, which has no value if it is not finite. -/
def ofDecimal (d : Decimal) : Draft R :=
  real ((Scalar.ofNumeral? (Numeral.finite d)).filter Scalar.isFinite)

/-- The greatest unsigned 64-bit integer. -/
def maxUInt64 : Nat := 18446744073709551615

/-- The value of a number without point and exponent. -/
def ofInteger (negative : Bool) (n : Nat) : Draft R :=
  if negative then
    if n = 0 ∨ -(n : Int) < minInt64 then ofDecimal ⟨true, n, 0⟩ else integer (-(n : Int))
  else if n ≤ maxUInt64 then integer n
  else ofDecimal ⟨false, n, 0⟩

/-- A number. -/
def readNumber? (cs : List Char) : Option (Draft R × List Char) := do
  let (negative, cs) := match cs with
    | '-' :: rest => (true, rest)
    | cs => (false, cs)
  let (whole, cs) ← readWhole? cs
  let (fraction, cs) ← match cs with
    | '.' :: rest => readRun? rest
    | cs => some ([], cs)
  let (power, cs) ← match cs with
    | c :: rest =>
      if c = 'e' ∨ c = 'E' then do
        let (minus, rest) := splitSign rest
        let (ds, rest) ← readRun? rest
        let n : Int := readDigits 0 ds
        some (some (if minus then -n else n), rest)
      else some (none, c :: rest)
    | [] => some (none, [])
  let digits := readDigits (readDigits 0 whole) fraction
  let j := if fraction = [] ∧ power = none then ofInteger negative digits
    else ofDecimal ⟨negative, digits, power.getD 0 - fraction.length⟩
  some (j, cs)

/-! ## Values -/

/-- A string, which has no value if a surrogate of it is unpaired. -/
def ofParts (parts : List StringPart) : Draft R :=
  match textOf? parts with
  | some s => string s
  | none => unreadable

/-- A container, which has no value if containers may not nest any deeper. -/
def nested (depth : Nat) (container : Draft R) : Draft R :=
  if depth = 0 then unreadable else container

/-- An object, which has no value if a name of it has none. -/
def ofMembers (members : List (Option String × Draft R)) : Draft R :=
  match members.mapM fun (name, j) => name.map (·, j) with
  | some members => object members
  | none => unreadable

mutual

/-- A value, where containers may nest `depth` deep. -/
def readValue? : (fuel : Nat) → (depth : Nat) → List Char → Option (Draft R × List Char)
  | 0, _, _ => none
  | fuel + 1, depth, cs =>
    match skipSpace cs with
    | 'n' :: 'u' :: 'l' :: 'l' :: rest => some (null, rest)
    | 't' :: 'r' :: 'u' :: 'e' :: rest => some (bool true, rest)
    | 'f' :: 'a' :: 'l' :: 's' :: 'e' :: rest => some (bool false, rest)
    | '"' :: rest => do
      let (parts, rest) ← readString? rest
      some (ofParts parts, rest)
    | '[' :: rest =>
      match skipSpace rest with
      | ']' :: rest => some (nested depth (array []), rest)
      | rest => do
        let (items, rest) ← readItems? fuel (depth - 1) rest
        some (nested depth (array items), rest)
    | '{' :: rest =>
      match skipSpace rest with
      | '}' :: rest => some (nested depth (object []), rest)
      | rest => do
        let (members, rest) ← readMembers? fuel (depth - 1) rest
        some (nested depth (ofMembers members), rest)
    | cs => readNumber? cs

/-- The items of an array, up to its closing bracket. -/
def readItems? : (fuel : Nat) → (depth : Nat) → List Char → Option (List (Draft R) × List Char)
  | 0, _, _ => none
  | fuel + 1, depth, cs => do
    let (j, cs) ← readValue? fuel depth cs
    match skipSpace cs with
    | ',' :: rest => do
      let (items, rest) ← readItems? fuel depth rest
      some (j :: items, rest)
    | ']' :: rest => some ([j], rest)
    | _ => none

/-- The members of an object, up to its closing brace. -/
def readMembers? : (fuel : Nat) → (depth : Nat) → List Char →
    Option (List (Option String × Draft R) × List Char)
  | 0, _, _ => none
  | fuel + 1, depth, cs =>
    match skipSpace cs with
    | '"' :: rest => do
      let (name, rest) ← readString? rest
      match skipSpace rest with
      | ':' :: rest => do
        let (j, rest) ← readValue? fuel depth rest
        let member := (textOf? name, j)
        match skipSpace rest with
        | ',' :: rest => do
          let (members, rest) ← readMembers? fuel depth rest
          some (member :: members, rest)
        | '}' :: rest => some ([member], rest)
        | _ => none
      | _ => none
    | _ => none

end

/-- The deepest nesting of containers. -/
def maxDepth : Nat := 127

/-- Reads a text that holds one draft of a value and nothing else. -/
def readDraft? (s : String) : Option (Draft R) := do
  let cs := s.toList
  let (j, rest) ← readValue? (cs.length + 1) maxDepth cs
  if skipSpace rest = [] then some j else none

/-- Reads a text that holds one value and nothing else. -/
def parse? (s : String) : Option (Json R) := (readDraft? s).bind value?

end Json

end Charting
