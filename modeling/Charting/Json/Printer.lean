import Charting.Json.Basic

/-!
# Writing JSON

The compact text of a value: no space between tokens, and no character escaped that may stand in a
string as it is.
-/

namespace Charting

namespace Json

variable {R : Type} [Scalar R]

/-- A character of a string, escaped if it has to be. -/
def escapeStringChar (c : Char) : List Char :=
  if c = '"' then ['\\', '"']
  else if c = '\\' then ['\\', '\\']
  else if c = '\x08' then ['\\', 'b']
  else if c = '\t' then ['\\', 't']
  else if c = '\n' then ['\\', 'n']
  else if c = '\x0c' then ['\\', 'f']
  else if c = '\r' then ['\\', 'r']
  else if c.toNat < 0x20 then
    ['\\', 'u', '0', '0', Nat.digitChar (c.toNat / 16), Nat.digitChar (c.toNat % 16)]
  else [c]

/-- A string between quotes. -/
def quoted (s : String) : List Char := '"' :: s.toList.flatMap escapeStringChar ++ ['"']

/-- The text of a number: the shortest that reads back; a tie goes to the even digit. -/
def realText (x : R) : String :=
  match Scalar.toNumeral .toEven x with
  | .finite d => d.scientific
  | n => n.positional

mutual

/-- The characters of a value. -/
def chars : Json R → List Char
  | null => "null".toList
  | bool b => (if b then "true" else "false").toList
  | integer n => (toString n).toList
  | real x => (realText x).toList
  | string s => quoted s
  | array items => '[' :: charsItems items ++ [']']
  | object members => '{' :: charsMembers members ++ ['}']

/-- The items of an array, separated by commas. -/
def charsItems : List (Json R) → List Char
  | [] => []
  | j :: rest => chars j ++ (if rest.isEmpty then [] else ',' :: charsItems rest)

/-- The members of an object, separated by commas. -/
def charsMembers : List (String × Json R) → List Char
  | [] => []
  | (name, j) :: rest =>
    quoted name ++ ':' :: chars j ++ (if rest.isEmpty then [] else ',' :: charsMembers rest)

end

/-- The compact text of a value. -/
def text (j : Json R) : String := String.ofList (chars j)

end Json

end Charting
