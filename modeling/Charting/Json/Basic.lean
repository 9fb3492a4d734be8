import Charting.Numeric.Scalar

/-!
# JSON values

Members of an object are kept as they stand in the text, repeated names included.  `Json.canonical`
sorts them and keeps the last of each name, which is how free-form parts of a document are read.
-/

namespace Charting

/-- A JSON value with numbers in `R`. -/
inductive Json (R : Type) where
  /-- The word `null`. -/
  | null
  /-- A truth value. -/
  | bool (b : Bool)
  /-- An integer of at most 64 bits, written without point and exponent. -/
  | integer (n : Int)
  /-- Any other number. -/
  | real (x : R)
  /-- A text. -/
  | string (s : String)
  /-- A sequence of values. -/
  | array (items : List (Json R))
  /-- Named values in the order of the text. -/
  | object (members : List (String × Json R))
deriving Inhabited

namespace Json

variable {R : Type}

/-- Puts a member among others that are sorted by name, replacing one of the same name. -/
def insertMember {α : Type} (name : String) (x : α) : List (String × α) → List (String × α)
  | [] => [(name, x)]
  | (other, y) :: rest =>
    if name < other then (name, x) :: (other, y) :: rest
    else if name = other then (name, x) :: rest
    else (other, y) :: insertMember name x rest

mutual

/-- The value with the members of every object sorted by name, the last of each name kept. -/
def canonical : Json R → Json R
  | array items => array (canonicalItems items)
  | object members => object (canonicalMembers members [])
  | j => j

/-- The items in canonical form. -/
def canonicalItems : List (Json R) → List (Json R)
  | [] => []
  | j :: rest => canonical j :: canonicalItems rest

/-- The members in canonical form, added to those already sorted. -/
def canonicalMembers : List (String × Json R) → List (String × Json R) → List (String × Json R)
  | [], sorted => sorted
  | (name, j) :: rest, sorted => canonicalMembers rest (insertMember name (canonical j) sorted)

end

/-- The text, if the value is one. -/
def string? : Json R → Option String
  | string s => some s
  | _ => none

/-- The truth value, if the value is one. -/
def bool? : Json R → Option Bool
  | bool b => some b
  | _ => none

/-- The items, if the value is an array. -/
def items? : Json R → Option (List (Json R))
  | array items => some items
  | _ => none

/-- The members, if the value is an object. -/
def members? : Json R → Option (List (String × Json R))
  | object members => some members
  | _ => none

/-- The member of the given name, if the value is an object that has it. -/
def get? (j : Json R) (name : String) : Option (Json R) :=
  j.members?.bind (·.lookup name)

/-- The number, if the value is one. -/
def number? [Scalar R] : Json R → Option R
  | integer n => some (Scalar.ofInt n)
  | real x => some x
  | _ => none

end Json

end Charting
