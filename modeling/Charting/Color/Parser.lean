import Charting.Color.Basic
import Charting.Color.Names
import Charting.Text.Blank

/-!
# Reading colours

A colour is written as hexadecimal digits after `#`, by its name, or as the function `rgb` of its
components.  Between the tokens of the function there may be space and comments.
-/

namespace Charting

namespace Color

variable {R : Type} [Scalar R]

/-- The value of a hexadecimal digit. -/
def hexValue? (c : Char) : Option Nat :=
  if c.isDigit then some (c.toNat - '0'.toNat)
  else
    let c := c.toLower
    if 'a' ≤ c ∧ c ≤ 'f' then some (c.toNat - 'a'.toNat + 10) else none

/-- The colour of three or four digits, each of which stands for a byte of two such digits, or of
three or four bytes of two digits. -/
def ofHex? (cs : List Char) : Option (Color R) := do
  match ← cs.mapM hexValue? with
  | [r, g, b] => some (ofBytes (17 * r) (17 * g) (17 * b) 255)
  | [r, g, b, a] => some (ofBytes (17 * r) (17 * g) (17 * b) (17 * a))
  | [r, r', g, g', b, b'] => some (ofBytes (16 * r + r') (16 * g + g') (16 * b + b') 255)
  | [r, r', g, g', b, b', a, a'] =>
    some (ofBytes (16 * r + r') (16 * g + g') (16 * b + b') (16 * a + a'))
  | _ => none

/-- The colour with a name, in any case. -/
def ofName? (name : String) : Option (Color R) :=
  if name = "transparent" then some (ofBytes 0 0 0 0)
  else (colorNames.lookup name).map ofRgb

/-! ## Words -/

/-- Whether a character can stand in a word. -/
def isWordChar (c : Char) : Bool := c.isAlphanum || c == '-' || c == '_'

/-- Whether a character other than a hyphen can stand first in a word. -/
def isWordStart (c : Char) : Bool := c.isAlpha || c == '_'

/-- Whether there is a word in front of a text.  One hyphen may come first in a word. -/
def startsWord : List Char → Bool
  | '-' :: c :: _ => isWordStart c
  | c :: _ => isWordStart c
  | [] => false

/-- The word in front of a text, in lower case, and the text after it. -/
def word? (cs : List Char) : Option (String × List Char) :=
  if startsWord cs then
    some (String.ofList ((cs.takeWhile isWordChar).map Char.toLower), cs.dropWhile isWordChar)
  else none

/-! ## The function -/

/-- The text after the end of a comment. -/
def afterComment? : List Char → Option (List Char)
  | '*' :: '/' :: rest => some rest
  | _ :: rest => afterComment? rest
  | [] => none

/-- The text without space and comments in front; none if a comment has no end. -/
def skipGaps? : (fuel : Nat) → List Char → Option (List Char)
  | 0, cs => some cs
  | fuel + 1, cs =>
    match cs with
    | '/' :: '*' :: rest => (afterComment? rest).bind (skipGaps? fuel)
    | c :: rest =>
      if c = ' ' ∨ c = '\t' ∨ c = '\n' ∨ c = '\r' then skipGaps? fuel rest
      else some (c :: rest)
    | [] => some []

/-- The text without space and comments in front. -/
def gaps? (cs : List Char) : Option (List Char) := skipGaps? (cs.length + 1) cs

/-- The longest number in front of a text, and the text after it.  A point needs a digit after it,
and so does an exponent. -/
def splitNumber (cs : List Char) : List Char × List Char :=
  let (sign, cs) := match cs with
    | '+' :: rest => (['+'], rest)
    | '-' :: rest => (['-'], rest)
    | cs => ([], cs)
  let whole := cs.takeWhile Char.isDigit
  let cs := cs.dropWhile Char.isDigit
  let (fraction, cs) := match cs with
    | '.' :: rest =>
      let ds := rest.takeWhile Char.isDigit
      if ds = [] then ([], cs) else ('.' :: ds, rest.dropWhile Char.isDigit)
    | cs => ([], cs)
  let (power, cs) := match cs with
    | e :: rest =>
      if e = 'e' ∨ e = 'E' then
        let (mark, digits) := match rest with
          | '+' :: more => (['+'], more)
          | '-' :: more => (['-'], more)
          | more => ([], more)
        let ds := digits.takeWhile Char.isDigit
        if ds = [] then ([], cs) else (e :: mark ++ ds, digits.dropWhile Char.isDigit)
      else ([], cs)
    | [] => ([], cs)
  (sign ++ whole ++ fraction ++ power, cs)

/-- A component: a number, a percentage, or the word `none` in any case, which counts as zero.  The
first argument scales plain numbers.  A number with a word right after it has a unit, which no
component has. -/
def component? (scale : R) (cs : List Char) : Option (R × List Char) := do
  let cs ← gaps? cs
  let (numeral, rest) := splitNumber cs
  let amount ← match Scalar.read? numeral with
    | some x =>
      match rest with
      | '%' :: rest => some (x * (0.01 : R), rest)
      | rest => if startsWord rest then none else some (x * scale, rest)
    | none => do
      let (word, rest) ← word? cs
      if word = "none" then some (Scalar.ofInt 0, rest) else none
  some (Scalar.clamp amount.1 (Scalar.ofInt 0) (Scalar.ofInt 1), amount.2)

/-- The text after a character that gaps may precede. -/
def after? (c : Char) (cs : List Char) : Option (List Char) := do
  let cs ← gaps? cs
  match cs with
  | d :: rest => if d = c then some rest else none
  | [] => none

/-- The three components and the opacity of the function, after its opening parenthesis.  A comma
after the first component asks for commas between all of them. -/
def ofArguments? (cs : List Char) : Option (Color R) := do
  let scale : R := 1.0 / 255.0
  let (r, cs) ← component? scale cs
  let (commas, cs) := match after? ',' cs with
    | some rest => (true, rest)
    | none => (false, cs)
  let (g, cs) ← component? scale cs
  let cs ← if commas then after? ',' cs else some cs
  let (b, cs) ← component? scale cs
  let (a, cs) ← match after? (if commas then ',' else '/') cs with
    | some rest => component? (Scalar.ofInt 1) rest
    | none => some (Scalar.ofInt 1, cs)
  let cs ← after? ')' cs
  if cs = [] then
    some ⟨Scalar.single r, Scalar.single g, Scalar.single b, Scalar.single a⟩
  else none

/-- Reads a colour; blanks around it are ignored. -/
def read? (s : String) : Option (Color R) :=
  let cs := trimBlanks s.toList
  match cs with
  | '#' :: rest => ofHex? rest
  | cs => do
    let (word, rest) ← word? cs
    match rest with
    | [] => ofName? word
    | '(' :: rest => if word = "rgb" ∨ word = "rgba" then ofArguments? rest else none
    | _ => none

end Color

end Charting
