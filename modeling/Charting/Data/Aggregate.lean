import Charting.Data.Dataset
import Charting.Data.Grouping

/-!
# Aggregation

`Dataset.aggregate` makes one row of each group of rows that agree in some fields, with summaries of
other fields over the group.
-/

namespace Charting

/-- A summary of many values. -/
inductive AggregateOp where
  /-- The number of rows. -/
  | count
  /-- The sum of the finite readings. -/
  | sum
  /-- The mean of the finite readings. -/
  | mean
  /-- The least finite reading. -/
  | min
  /-- The greatest finite reading. -/
  | max
deriving DecidableEq, Repr

namespace AggregateOp

/-- The name in documents. -/
def name : AggregateOp → String
  | count => "count"
  | sum => "sum"
  | mean => "mean"
  | min => "min"
  | max => "max"

/-- The operation with a name. -/
def ofName? (s : String) : Option AggregateOp :=
  match s with
  | "count" => some count
  | "sum" => some sum
  | "mean" | "average" => some mean
  | "min" => some min
  | "max" => some max
  | _ => none

variable {R : Type} [Scalar R]

/-- The sum, from the left. -/
def total (xs : List R) : R := xs.foldl (· + ·) (Scalar.ofInt 0)

/-- The summary of values; values without a finite reading are skipped, except that they count. -/
def apply (op : AggregateOp) (values : List (Value R)) : Value R :=
  let readings := values.filterMap Value.toFinite?
  match op, readings with
  | count, _ => .number (Scalar.ofNat values.length)
  | _, [] => .null
  | sum, _ => .number (total readings)
  | mean, _ => .number (total readings / Scalar.ofNat readings.length)
  | min, x :: rest => .number (rest.foldl Scalar.min x)
  | max, x :: rest => .number (rest.foldl Scalar.max x)

end AggregateOp

/-- A summary of a column under a new name. -/
structure AggregateField where
  /-- The operation. -/
  op : AggregateOp
  /-- The column that is summarised; counting needs none. -/
  input : Option String
  /-- The name of the result. -/
  output : String
deriving DecidableEq, Repr

namespace AggregateField

/-- A summary named after the operation and the column. -/
def of (op : AggregateOp) (input : String) : AggregateField :=
  ⟨op, some input, op.name ++ "_" ++ input⟩

/-- The number of rows. -/
def rowCount : AggregateField := ⟨.count, none, "count"⟩

/-- The position of the column that a summary reads, if it reads one. -/
def inputColumn {R : Type} (data : Dataset R) (f : AggregateField) :
    Except DataError (Option Nat) :=
  match f.op, f.input with
  | .count, _ => .ok none
  | _, some name => do
    let i ← data.column name
    .ok (some i)
  | _, none => .error (.unknownField f.output)

/-- The result of a summary is a ratio. -/
def outputField (f : AggregateField) : Field := ⟨f.output, some .quantitative, some .ratio⟩

/-- The value that a summary reads in a row. -/
def read {R : Type} (column : Option Nat) (row : Row R) : Except DataError (Value R) :=
  match column with
  | some i => row.cell i
  | none => .ok .null

end AggregateField

namespace Dataset

variable {R : Type} [Scalar R]

/-- The rows grouped by the keys of some columns. -/
def groupRows (data : Dataset R) (columns : List Nat) :
    Except DataError (List (List (Value R) × List (Row R))) := do
  let tagged ← data.rows.mapM fun row => do
    let values ← columns.mapM row.cell
    .ok (values.map Value.key, row)
  .ok ((groupBy (·.1) tagged).map fun (key, rows) => (key, rows.map (·.2)))

/-- The row that stands for a group: the values of its first row in the grouping columns, and the
summaries over all its rows. -/
def summarise (columns : List Nat) (summaries : List (AggregateField × Option Nat))
    (rows : List (Row R)) : Except DataError (List (Value R)) := do
  let first ← match rows with
    | row :: _ => columns.mapM row.cell
    | [] => .ok []
  let results ← summaries.mapM fun (f, column) => do
    let values ← rows.mapM (AggregateField.read column)
    .ok (f.op.apply values)
  .ok (first ++ results)

/-- One row per distinct combination of the values of `names`, in order of first appearance: these
values, then the summaries.  The keys are fresh. -/
def aggregate (data : Dataset R) (names : List String) (summaries : List AggregateField) :
    Except DataError (Dataset R) := do
  let columns ← names.mapM data.column
  let inputs ← summaries.mapM (AggregateField.inputColumn data)
  let groups ← data.groupRows columns
  let rows ← groups.mapM fun (_, rows) => summarise columns (summaries.zip inputs) rows
  .ok (ofRows (names.filterMap data.field? ++ summaries.map AggregateField.outputField) rows)

end Dataset

end Charting
