import Charting.Data.Field
import Charting.Data.Value
import Charting.Json.Parser

/-!
# Datasets

A dataset is a sequence of rows that share one list of fields.  Every row has a key that stays with
it when rows are selected, so that whatever is made from a row can refer back to it.
-/

namespace Charting

/-- Why a dataset could not be built, filtered or aggregated. -/
inductive DataError where
  /-- No column has this name. -/
  | unknownField (name : String)
  /-- No parameter has this name. -/
  | unknownParam (name : String)
  /-- A row does not have one value per field. -/
  | arityMismatch (expected got : Nat)
  /-- A record is not an object. -/
  | invalidRecord (index : Nat)
  /-- The text is not an array of records. -/
  | json
  /-- A row has no value in a column of its dataset. -/
  | missingCell (key column : Nat)
deriving DecidableEq, Repr

/-- The wording of an error. -/
def DataError.message : DataError → String
  | unknownField name => s!"unknown field `{name}`"
  | unknownParam name => s!"unknown parameter `{name}`"
  | arityMismatch expected got => s!"row has {got} values but the dataset has {expected} fields"
  | invalidRecord index => s!"record {index} is not a JSON object"
  | json => "invalid JSON data"
  | missingCell key column => s!"row {key} has no value in column {column}"

/-- A row: a key and one value per field. -/
structure Row (R : Type) where
  /-- What identifies the row in every selection. -/
  key : Nat
  /-- The values, in the order of the fields. -/
  values : List (Value R)
deriving BEq, DecidableEq, Repr

/-- Rows that share one list of fields. -/
structure Dataset (R : Type) where
  /-- The columns. -/
  fields : List Field
  /-- The rows, in order. -/
  rows : List (Row R)
  /-- The key of the next row; no row has had it. -/
  nextKey : Nat
deriving BEq, DecidableEq, Repr

namespace Row

variable {R : Type}

/-- The value in a column. -/
def cell (row : Row R) (column : Nat) : Except DataError (Value R) :=
  match row.values[column]? with
  | some v => .ok v
  | none => .error (.missingCell row.key column)

end Row

namespace Dataset

variable {R : Type}

/-- No rows yet. -/
def empty (fields : List Field) : Dataset R := ⟨fields, [], 0⟩

instance : Inhabited (Dataset R) := ⟨empty []⟩

/-- Adds a row in place, with the next key: the answer, and the dataset afterwards.  A row that does
not have one value per field is refused. -/
def append (data : Dataset R) (values : List (Value R)) : Except DataError Nat × Dataset R :=
  if values.length = data.fields.length then
    (.ok data.nextKey,
      { data with rows := data.rows ++ [⟨data.nextKey, values⟩], nextKey := data.nextKey + 1 })
  else (.error (.arityMismatch data.fields.length values.length), data)

/-- Adds a row to a copy, which is the second component; the first one is the key of the row. -/
def push (data : Dataset R) (values : List (Value R)) : Except DataError (Nat × Dataset R) :=
  match data.append values with
  | (.ok key, data) => .ok (key, data)
  | (.error e, _) => .error e

/-- The dataset of the given rows, with keys from zero. -/
def ofRows (fields : List Field) (rows : List (List (Value R))) : Dataset R :=
  { fields := fields
    rows := rows.zipIdx.map fun (values, i) => ⟨i, values⟩
    nextKey := rows.length }

/-- The number of rows. -/
def size (data : Dataset R) : Nat := data.rows.length

/-- The position of the first column with a name. -/
def columnIndex? (data : Dataset R) (name : String) : Option Nat :=
  data.fields.findIdx? (·.name == name)

/-- The position of a column that has to exist. -/
def column (data : Dataset R) (name : String) : Except DataError Nat :=
  match data.columnIndex? name with
  | some i => .ok i
  | none => .error (.unknownField name)

/-- The first field with a name. -/
def field? (data : Dataset R) (name : String) : Option Field := data.fields.find? (·.name == name)

/-- Replaces the first field with a name. -/
def setField (data : Dataset R) (name : String) (field : Field) : Option (Dataset R) :=
  (data.columnIndex? name).map fun i => { data with fields := data.fields.set i field }

/-- The value at a row and a column. -/
def value? (data : Dataset R) (row column : Nat) : Option (Value R) :=
  data.rows[row]?.bind (·.values[column]?)

/-- The value of a field in a row. -/
def get? (data : Dataset R) (row : Nat) (name : String) : Option (Value R) :=
  (data.columnIndex? name).bind (data.value? row)

/-- The values of a field, in the order of the rows. -/
def values? (data : Dataset R) (name : String) : Option (List (Value R)) :=
  (data.columnIndex? name).map fun i => data.rows.filterMap (·.values[i]?)

/-- The keys of the rows. -/
def keys (data : Dataset R) : List Nat := data.rows.map (·.key)

/-- All positions of rows. -/
def indices (data : Dataset R) : List Nat := List.range data.rows.length

/-- The rows at the given positions; a position past the end stands for a row without values. -/
def rowsAt (data : Dataset R) (positions : List Nat) : List (Row R) :=
  positions.map fun i => data.rows[i]?.getD ⟨i, []⟩

/-- The rows at the given positions, with their keys; positions past the end are skipped. -/
def select (data : Dataset R) (rows : List Nat) : Dataset R :=
  { data with rows := rows.filterMap (data.rows[·]?) }

end Dataset

/-! ## Records -/

/-- The columns of records: their names, in order of first appearance, and the position of each
name. -/
structure Columns where
  /-- The names. -/
  names : List String
  /-- The position of each name, the latest name first. -/
  positions : List (String × Nat)
deriving Repr

namespace Columns

variable {R : Type}

/-- No columns yet. -/
def empty : Columns := ⟨[], []⟩

/-- A name gets a column at the end if it has none yet. -/
def add (c : Columns) (name : String) : Columns :=
  match c.positions.lookup name with
  | some _ => c
  | none => ⟨c.names ++ [name], (name, c.names.length) :: c.positions⟩

/-- The columns after one more record, the one at position `i`, which has to be an object. -/
def addRecord (c : Columns) (record : Json R × Nat) : Except DataError Columns :=
  match record.1.members? with
  | some members => .ok ((members.map (·.1)).foldl add c)
  | none => .error (.invalidRecord record.2)

/-- The columns of all names that occur in records. -/
def ofRecords (records : List (Json R)) : Except DataError Columns :=
  records.zipIdx.foldlM addRecord empty

/-- Puts the reading of a member into the column of its name. -/
def place [Scalar R] (c : Columns) (values : List (Value R)) (m : String × Json R) :
    List (Value R) :=
  match c.positions.lookup m.1 with
  | some column => values.set column (.ofJson m.2)
  | none => values

/-- The values of a record: the readings of its members, and nothing in the other columns. -/
def row [Scalar R] (c : Columns) (record : Json R) : List (Value R) :=
  (record.members?.getD []).foldl c.place (List.replicate c.names.length .null)

end Columns

namespace Dataset

variable {R : Type}

/-- The dataset of a list of objects.  The records are read twice: for the names of the columns,
which are put in order of first appearance, and for the rows. -/
def ofRecords [Scalar R] (records : List (Json R)) : Except DataError (Dataset R) := do
  let columns ← Columns.ofRecords records
  records.foldlM (fun data record => do
    let (_, data) ← data.push (columns.row record)
    .ok data) (empty (columns.names.map .untyped))

/-- The dataset of a JSON text that holds an array of objects. -/
def parse [Scalar R] (s : String) : Except DataError (Dataset R) :=
  match (Json.parse? s : Option (Json R)).bind (·.canonical.items?) with
  | some records => ofRecords records
  | none => .error .json

end Dataset

end Charting
