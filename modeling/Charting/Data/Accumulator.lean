import Charting.Data.Aggregate

/-!
# Summaries in one pass

Rows can be summarised while they are read, each of them once: of a group there are the values of
its first row, and for each summary an accumulator, which counts what it is given and keeps the
total and both extremes of the finite readings.
-/

namespace Charting

/-- What is kept of the values of a group for a summary. -/
structure Accumulator (R : Type) where
  /-- The number of values. -/
  count : Nat
  /-- The number of values that have a finite reading. -/
  numeric : Nat
  /-- The sum of the finite readings. -/
  sum : R
  /-- The least finite reading, if there is one. -/
  least : R
  /-- The greatest finite reading, if there is one. -/
  greatest : R
deriving Repr

/-- What is kept of a group of rows. -/
structure Tally (R : Type) where
  /-- The key of the group. -/
  key : List (Value R)
  /-- The values of the first row in the grouping columns. -/
  first : List (Value R)
  /-- The accumulator of each summary. -/
  accumulators : List (Accumulator R)
deriving Repr

variable {R : Type} [Scalar R]

namespace Accumulator

/-- Nothing has been read. -/
def empty : Accumulator R := ⟨0, 0, Scalar.ofInt 0, Scalar.ofInt 0, Scalar.ofInt 0⟩

/-- One more value, of which the numeric reading is given.  The first finite reading is the least
and the greatest one. -/
def push (a : Accumulator R) (reading : Option R) : Accumulator R :=
  match reading.filter Scalar.isFinite with
  | none => { a with count := a.count + 1 }
  | some x =>
    { count := a.count + 1
      numeric := a.numeric + 1
      sum := a.sum + x
      least := if a.numeric = 0 then x else Scalar.min a.least x
      greatest := if a.numeric = 0 then x else Scalar.max a.greatest x }

/-- The summary of what has been read. -/
def finish (a : Accumulator R) (op : AggregateOp) : Value R :=
  if op = .count then .number (Scalar.ofNat a.count)
  else if a.numeric = 0 then .null
  else
    .number <| match op with
      | .count => Scalar.ofNat a.count
      | .sum => a.sum
      | .mean => a.sum / Scalar.ofNat a.numeric
      | .min => a.least
      | .max => a.greatest

end Accumulator

namespace Tally

/-- A group of one row. -/
def start (values : List (Value R)) (readings : List (Option R)) : Tally R :=
  ⟨values.map Value.key, values, readings.map Accumulator.empty.push⟩

/-- One more row of the group. -/
def push (t : Tally R) (readings : List (Option R)) : Tally R :=
  { t with accumulators := t.accumulators.zipWith Accumulator.push readings }

/-- One more row, which gets a group of its own at the end if there is none with its key. -/
def insert (values : List (Value R)) (readings : List (Option R)) : List (Tally R) → List (Tally R)
  | [] => [start values readings]
  | t :: rest =>
    if t.key = values.map Value.key then t.push readings :: rest
    else t :: insert values readings rest

/-- The row that stands for the group. -/
def row (summaries : List AggregateField) (t : Tally R) : List (Value R) :=
  t.first ++ t.accumulators.zipWith (fun a f => a.finish f.op) summaries

end Tally

namespace Dataset

/-- The groups after one more row. -/
def tallyRow (columns : List Nat) (inputs : List (Option Nat)) (tallies : List (Tally R))
    (row : Row R) : Except DataError (List (Tally R)) := do
  let values ← columns.mapM row.cell
  let inputValues ← inputs.mapM fun column => AggregateField.read column row
  .ok (Tally.insert values (inputValues.map Value.toNumber?) tallies)

/-- What `aggregate` makes of the groups of rows, made while every row is read once. -/
def aggregateInOnePass (data : Dataset R) (names : List String)
    (summaries : List AggregateField) : Except DataError (Dataset R) := do
  let columns ← names.mapM data.column
  let inputs ← summaries.mapM (AggregateField.inputColumn data)
  let tallies ← data.rows.foldlM (tallyRow columns inputs) []
  .ok (ofRows (names.filterMap data.field? ++ summaries.map AggregateField.outputField)
    (tallies.map (Tally.row summaries)))

end Dataset

end Charting
