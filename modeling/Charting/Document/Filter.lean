import Charting.Data.Predicate
import Charting.Document.Error

/-!
# Filters

A filter is an object that compares a field with operands, or combines other filters by `and`, `or`
and `not`.  An operand is a literal, or an object that names a parameter.
-/

namespace Charting

variable {R : Type} [Scalar R]

/-- The operand that a part of a filter stands for. -/
def Operand.ofJson (j : Json R) : Operand R :=
  match (j.get? "param").bind Json.string? with
  | some name => .param name
  | none => .value (.ofJson j)

/-- A member of a filter, and what it stands for as a filter and as a list of filters. -/
structure FilterMember (R : Type) where
  /-- The name. -/
  name : String
  /-- The value. -/
  value : Json R
  /-- The value as a filter. -/
  test : Except DocumentError (Predicate R)
  /-- The value as a list of filters. -/
  tests : Except DocumentError (List (Predicate R))

namespace Filter

/-- A mistake in a filter. -/
def invalid (reason : String) : DocumentError := .invalid "filter" reason

/-- The member with a name. -/
def member? (members : List (FilterMember R)) (name : String) : Option (FilterMember R) :=
  members.find? (·.name == name)

/-- The first comparison among the members. -/
def comparison? (members : List (FilterMember R)) : Option (CompareOp × Json R) :=
  members.findSome? fun m =>
    if m.name = "field" then none
    else (CompareOp.ofToken? m.name).map fun op => (op, m.value)

/-- The test of a field: a list of values, a range, or a comparison. -/
def ofField (members : List (FilterMember R)) : Except DocumentError (Predicate R) := do
  let some field := (member? members "field").bind (·.value.string?)
    | .error (invalid "missing `field`")
  match member? members "oneOf", member? members "range", comparison? members with
  | some m, _, _ =>
    match m.value with
    | .array values => .ok (.oneOf field (values.map .ofJson))
    | _ => .error (invalid "`oneOf` expects an array")
  | none, some m, _ =>
    match m.value with
    | .array [min, max] => .ok (.range field (.ofJson min) (.ofJson max))
    | _ => .error (invalid "`range` expects two bounds")
  | none, none, some (op, rhs) => .ok (.compare field op (.ofJson rhs))
  | none, none, none => .error (invalid ("no operator for field `" ++ field ++ "`"))

/-- The filter with the given members.  The first of `and`, `or`, `not` and a field decides. -/
def ofMembers (members : List (FilterMember R)) : Except DocumentError (Predicate R) :=
  match member? members "and", member? members "or", member? members "not" with
  | some m, _, _ => m.tests.map .and
  | none, some m, _ => m.tests.map .or
  | none, none, some m => m.test.map .not
  | none, none, none => ofField members

mutual

/-- Reads a filter. -/
def ofJson : Json R → Except DocumentError (Predicate R)
  | .object members => ofMembers (readMembers members)
  | _ => .error (invalid "expected an object")

/-- Reads a list of filters. -/
def listOfJson : Json R → Except DocumentError (List (Predicate R))
  | .array items => readItems items
  | _ => .error (invalid "expected an array of predicates")

/-- Reads filters, up to the first mistake. -/
def readItems : List (Json R) → Except DocumentError (List (Predicate R))
  | [] => .ok []
  | j :: rest => do
    let p ← ofJson j
    let ps ← readItems rest
    .ok (p :: ps)

/-- Reads the members of a filter. -/
def readMembers : List (String × Json R) → List (FilterMember R)
  | [] => []
  | (name, j) :: rest => ⟨name, j, ofJson j, listOfJson j⟩ :: readMembers rest

end

end Filter

end Charting
