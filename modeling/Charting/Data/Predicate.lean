import Charting.Data.Dataset

/-!
# Predicates

Tests on the rows of a dataset.  Operands are values or named parameters, which are looked up when a
predicate is evaluated.
-/

namespace Charting

/-- A comparison. -/
inductive CompareOp where
  /-- Less. -/
  | lt
  /-- Less or equal. -/
  | le
  /-- Greater. -/
  | gt
  /-- Greater or equal. -/
  | ge
  /-- Equal. -/
  | eq
  /-- Not equal. -/
  | ne
deriving DecidableEq, Repr

namespace CompareOp

/-- The comparison that a token of a document stands for. -/
def ofToken? (token : String) : Option CompareOp :=
  match token with
  | "<" | "lt" => some lt
  | "<=" | "lte" => some le
  | ">" | "gt" => some gt
  | ">=" | "gte" => some ge
  | "==" | "=" | "eq" | "equal" => some eq
  | "!=" | "ne" => some ne
  | _ => none

/-- Whether a comparison holds; values that do not compare are different and nothing else. -/
def holds : CompareOp → Option Ordering → Bool
  | ne, none => true
  | _, none => false
  | lt, some o => o == .lt
  | le, some o => o != .gt
  | gt, some o => o == .gt
  | ge, some o => o != .lt
  | eq, some o => o == .eq
  | ne, some o => o != .eq

theorem holds_ge (o : Option Ordering) : ge.holds o = o.any (·.isGE) := by
  rcases o with _ | o
  · rfl
  · cases o <;> rfl

theorem holds_le (o : Option Ordering) : le.holds o = o.any (·.isLE) := by
  rcases o with _ | o
  · rfl
  · cases o <;> rfl

end CompareOp

/-- The current values of parameters. -/
abbrev ParamLookup (R : Type) := String → Option (Value R)

/-- The right-hand side of a test. -/
inductive Operand (R : Type) where
  /-- A fixed value. -/
  | value (v : Value R)
  /-- The current value of a parameter. -/
  | param (name : String)
deriving BEq, Repr

namespace Operand

variable {R : Type}

/-- The value of an operand. -/
def resolve (params : ParamLookup R) : Operand R → Except DataError (Value R)
  | value v => .ok v
  | param name =>
    match params name with
    | some v => .ok v
    | none => .error (.unknownParam name)

/-- The parameter that an operand names. -/
def params : Operand R → List String
  | value _ => []
  | param name => [name]

end Operand

/-- A test on a row. -/
inductive Predicate (R : Type) where
  /-- A field compares with an operand. -/
  | compare (field : String) (op : CompareOp) (rhs : Operand R)
  /-- A field equals one of the operands. -/
  | oneOf (field : String) (values : List (Operand R))
  /-- A field lies between two operands, both included. -/
  | range (field : String) (min max : Operand R)
  /-- The test fails. -/
  | not (p : Predicate R)
  /-- All tests hold. -/
  | and (all : List (Predicate R))
deriving Inhabited

namespace Predicate

variable {R : Type}

/-- The value of a field in a row; past the last row there is none. -/
def cellOf (data : Dataset R) (row : Nat) (field : String) : Except DataError (Value R) := do
  let column ← data.column field
  .ok ((data.value? row column).getD .null)

/-- Whether a value equals one of the operands, which are resolved up to the first match. -/
def matchesAny [Scalar R] (params : ParamLookup R) (v : Value R) :
    List (Operand R) → Except DataError Bool
  | [] => .ok false
  | operand :: rest => do
    let w ← operand.resolve params
    if v.compare? w == some .eq || v == w then .ok true else matchesAny params v rest

mutual

/-- The outcome of a test on a row. -/
def eval [Scalar R] (data : Dataset R) (row : Nat) (params : ParamLookup R) :
    Predicate R → Except DataError Bool
  | compare field op rhs => do
    let v ← cellOf data row field
    let w ← rhs.resolve params
    .ok (op.holds (v.compare? w))
  | oneOf field values => do
    let v ← cellOf data row field
    matchesAny params v values
  | range field min max => do
    let v ← cellOf data row field
    let lo ← min.resolve params
    let hi ← max.resolve params
    .ok (CompareOp.ge.holds (v.compare? lo) && CompareOp.le.holds (v.compare? hi))
  | not p => do
    let b ← eval data row params p
    .ok !b
  | and all => evalAll data row params all

/-- Whether all tests hold on a row; the tests after the first that fails are not run. -/
def evalAll [Scalar R] (data : Dataset R) (row : Nat) (params : ParamLookup R) :
    List (Predicate R) → Except DataError Bool
  | [] => .ok true
  | p :: rest => do
    if ← eval data row params p then evalAll data row params rest else .ok false

end

mutual

/-- The parameters that a test reads, in order. -/
def params : Predicate R → List String
  | compare _ _ rhs => rhs.params
  | oneOf _ values => values.flatMap Operand.params
  | range _ min max => min.params ++ max.params
  | not p => params p
  | and all => paramsAll all

/-- The parameters that the tests read, in order. -/
def paramsAll : List (Predicate R) → List String
  | [] => []
  | p :: rest => params p ++ paramsAll rest

end

mutual

/-- The fields that a test reads, in order. -/
def fields : Predicate R → List String
  | compare field _ _ => [field]
  | oneOf field _ => [field]
  | range field _ _ => [field]
  | not p => fields p
  | and all => fieldsAll all

/-- The fields that the tests read, in order. -/
def fieldsAll : List (Predicate R) → List String
  | [] => []
  | p :: rest => fields p ++ fieldsAll rest

end

/-- At least one of the tests holds; the tests after it are not run. -/
def or (any : List (Predicate R)) : Predicate R := not (and (any.map not))

end Predicate

/-- The rows on which a test holds, in order and with their keys. -/
def Dataset.filter {R : Type} [Scalar R] (data : Dataset R) (p : Predicate R)
    (params : ParamLookup R) : Except DataError (Dataset R) := do
  let kept ← data.indices.filterM fun row => p.eval data row params
  .ok (data.select kept)

end Charting
