import Charting.Numeric.Decimal
import Charting.Text.Blank
import Charting.Time.Calendar

/-!
# Timestamps

A timestamp is a count of milliseconds since 1970-01-01 in universal time.  `Timestamp.read?`
accepts the profile of dates and times that is common on the wire, and a few looser forms;
`Timestamp.text` writes a date, with the time of day unless it is midnight.
-/

namespace Charting

/-- The milliseconds of a day. -/
def msPerDay : Int := 86400000

/-- A date and a time of day, in whole seconds and milliseconds. -/
structure Moment where
  /-- The day. -/
  date : Date
  /-- The seconds since midnight. -/
  second : Nat
  /-- The milliseconds of the second. -/
  milli : Nat
deriving DecidableEq, Repr, Inhabited

namespace Moment

/-- The moment of a timestamp, if its year is supported. -/
def ofTimestamp? (ms : Int) : Option Moment :=
  let date := Date.ofDays (ms / msPerDay)
  let rest := (ms % msPerDay).toNat
  if Date.isSupportedYear date.year then some ⟨date, rest / 1000, rest % 1000⟩ else none

/-- The timestamp of a moment. -/
def toTimestamp (m : Moment) : Int := m.date.toDays * msPerDay + m.second * 1000 + m.milli

end Moment

namespace Timestamp

/-! ## Reading -/

/-- A part of a text that was read, and the text after it. -/
abbrev Reader (α : Type) := List Char → Option (α × List Char)

/-- Exactly the given characters. -/
def literal (want : List Char) : Reader Unit := fun cs =>
  if want.isPrefixOf cs then some ((), cs.drop want.length) else none

/-- A number of exactly `width` digits. -/
def exactDigits (width : Nat) : Reader Nat := fun cs =>
  let ds := cs.take width
  if ds.length = width ∧ ds.all Char.isDigit then some (readDigits 0 ds, cs.drop width) else none

/-- A number of one to `width` digits, after any blanks. -/
def upToDigits (width : Nat) : Reader Nat := fun cs =>
  let cs := dropBlanks cs
  let ds := (cs.take width).takeWhile Char.isDigit
  if ds = [] then none else some (readDigits 0 ds, cs.drop ds.length)

/-- A year after any blanks: up to four digits, or a sign and any number of digits. -/
def year : Reader Int := fun cs =>
  let cs := dropBlanks cs
  let signed (negative : Bool) (rest : List Char) : Option (Int × List Char) :=
    let ds := rest.takeWhile Char.isDigit
    if ds = [] then none
    else
      let n : Int := readDigits 0 ds
      some (if negative then -n else n, rest.drop ds.length)
  match cs with
  | '-' :: rest => signed true rest
  | '+' :: rest => signed false rest
  | _ => do
    let (n, rest) ← upToDigits 4 cs
    some ((n : Int), rest)

/-- An optional fraction of a second, cut to milliseconds: a point and at least one digit. -/
def fraction : Reader Nat := fun cs =>
  match cs with
  | '.' :: rest =>
    let ds := rest.takeWhile Char.isDigit
    if ds = [] then none
    else some (readDigits 0 ((ds ++ zeros 3).take 3), rest.dropWhile Char.isDigit)
  | _ => some (0, cs)

/-- A date whose parts are separated by `sep`. -/
def date (readYear : Reader Int) (readPart : Reader Nat) (sep : Char) : Reader Date := fun cs => do
  let (y, cs) ← readYear cs
  let (_, cs) ← literal [sep] cs
  let (m, cs) ← readPart cs
  let (_, cs) ← literal [sep] cs
  let (d, cs) ← readPart cs
  if (Date.mk y m d).isValid then some (⟨y, m, d⟩, cs) else none

/-- A time of day in seconds; second 60 is the instant after second 59. -/
def timeOfDay (readPart : Reader Nat) : Reader Nat := fun cs => do
  let (h, cs) ← readPart cs
  let (_, cs) ← literal [':'] cs
  let (m, cs) ← readPart cs
  let (_, cs) ← literal [':'] cs
  let (s, cs) ← readPart cs
  if h < 24 ∧ m < 60 ∧ s ≤ 60 then some (3600 * h + 60 * m + s, cs) else none

/-- An offset from universal time, in minutes; the long minus sign counts as a sign too. -/
def offset : Reader Int := fun cs =>
  let signed (negative : Bool) (cs : List Char) : Option (Int × List Char) := do
    let (h, cs) ← exactDigits 2 cs
    let (_, cs) ← literal [':'] cs
    let (m, cs) ← exactDigits 2 cs
    if h < 24 ∧ m < 60 then
      let minutes : Int := 60 * h + m
      some (if negative then -minutes else minutes, cs)
    else none
  match cs with
  | c :: rest =>
    if c = 'Z' ∨ c = 'z' then some (0, rest)
    else if c = '+' then signed false rest
    else if c = '-' ∨ c = '−' then signed true rest
    else none
  | [] => none

/-- The strict form: every part has its full width, and an offset is required. -/
def withOffset? (cs : List Char) : Option Int := do
  let (day, cs) ← date (fun cs => do
    let (n, cs) ← exactDigits 4 cs
    some ((n : Int), cs)) (exactDigits 2) '-' cs
  let cs ← match cs with
    | c :: rest => if c = 'T' ∨ c = 't' ∨ c = ' ' then some rest else none
    | [] => none
  let (second, cs) ← timeOfDay (exactDigits 2) cs
  let (milli, cs) ← fraction cs
  let (minutes, cs) ← offset cs
  if cs = [] then some ((Moment.mk day second milli).toTimestamp - minutes * 60000) else none

/-- A date and a time without an offset, separated by `T` or by blanks, possibly by none. -/
def withTime? (cs : List Char) : Option Int := do
  let (day, cs) ← date year (upToDigits 2) '-' cs
  let cs := match cs with
    | 'T' :: rest => rest
    | cs => dropBlanks cs
  let (second, cs) ← timeOfDay (upToDigits 2) cs
  let (milli, cs) ← fraction cs
  if cs = [] then some (Moment.mk day second milli).toTimestamp else none

/-- A date alone, which stands for its midnight. -/
def dateOnly? (sep : Char) (cs : List Char) : Option Int := do
  let (day, cs) ← date year (upToDigits 2) sep cs
  if cs = [] then some (Moment.mk day 0 0).toTimestamp else none

/-- Reads a date or a date with a time of day; without an offset it is in universal time. -/
def read? (s : String) : Option Int :=
  let cs := trimBlanks s.toList
  withOffset? cs <|> withTime? cs <|> dateOnly? '-' cs <|> dateOnly? '/' cs

/-! ## Writing -/

/-- A number with at least `width` digits. -/
def padded (width n : Nat) : String :=
  let ds := Nat.toDigits 10 n
  String.ofList (zeros (width - ds.length) ++ ds)

/-- Four digits for the years from 0 to 9999; any other year carries a sign. -/
def yearText (y : Int) : String :=
  if 0 ≤ y ∧ y ≤ 9999 then padded 4 y.toNat
  else (if y < 0 then "-" else "+") ++ padded 4 y.natAbs

/-- The date as year, month and day. -/
def dateText (d : Date) : String :=
  yearText d.year ++ "-" ++ padded 2 d.month ++ "-" ++ padded 2 d.day

/-- Hours and minutes. -/
def minuteText (second : Nat) : String :=
  padded 2 (second / 3600) ++ ":" ++ padded 2 (second / 60 % 60)

/-- Hours, minutes and seconds. -/
def secondText (second : Nat) : String := minuteText second ++ ":" ++ padded 2 (second % 60)

/-- The date, with the time of day unless it is midnight; a timestamp of an unsupported year is
written as its number. -/
def text (ms : Int) : String :=
  match Moment.ofTimestamp? ms with
  | none => toString ms
  | some m =>
    if m.second = 0 ∧ m.milli = 0 then dateText m.date
    else dateText m.date ++ "T" ++ secondText m.second

end Timestamp

end Charting
