import Charting.Data.Grouping
import Charting.Encoding.Inference
import Charting.Scale.Domain
import Charting.Spec.Chart

/-!
# Facets

`partition` splits rows into the cells of a grid: rows with different values of one field go into
different columns, and with different values of another into different rows of the grid.  Missing
values have cells of their own, so that no row is left out.
-/

namespace Charting

/-- One cell of a grid. -/
structure FacetCell (R : Type) where
  /-- The value of the column, if rows are split into columns. -/
  column : Option (Value R)
  /-- The value of the row of the grid, if rows are split into rows of the grid. -/
  row : Option (Value R)
  /-- The position of the column. -/
  columnIndex : Nat
  /-- The position of the row of the grid. -/
  rowIndex : Nat
  /-- The rows of the cell. -/
  rows : List (Row R)
deriving Repr

/-- The distinct values of a field, which are the columns or the rows of a grid. -/
structure FacetAxis (R : Type) where
  /-- The column of the data that is split by, if any. -/
  field : Option Nat
  /-- The values. -/
  values : List (Value R)
deriving Repr

/-- Rows that are split into the cells of a grid. -/
structure FacetGrid (R : Type) where
  /-- What the rows are split into columns by. -/
  columns : FacetAxis R
  /-- What the rows are split into rows of the grid by. -/
  rows : FacetAxis R
  /-- The cells, row by row. -/
  cells : List (FacetCell R)
deriving Repr

variable {R : Type} [Scalar R]

namespace FacetAxis

/-- Rows are not split. -/
def single : FacetAxis R := ⟨none, []⟩

/-- The number of parts that rows are split into. -/
def size (a : FacetAxis R) : Nat := max a.values.length 1

/-- The value that a row is split by. -/
def valueOf (column : Nat) (row : Row R) : Value R := row.values[column]?.getD .null

/-- The part that a row belongs to. -/
def slot (a : FacetAxis R) (row : Row R) : Nat :=
  match a.field with
  | none => 0
  | some column => (a.values.findIdx? fun v => v.key = (valueOf column row).key).getD 0

/-- Distinct values in the order in which they are shown.  Only ordinal fields can be given an order
of their own. -/
def order (type : DataType) (sort : Option (SortOrder R)) (values : List (Value R)) :
    List (Value R) :=
  match sort with
  | some (.explicit vs) => if type = .ordinal then explicitOrder values vs else values
  | some sort => sort.apply values
  | none => values

/-- What rows are split into by a field. -/
def ofBinding (data : Dataset R) (rows : List (Row R)) (b : FieldBinding R) :
    Except (CompileError R) (FacetAxis R) := do
  let some column := data.columnIndex? b.field | .error (.unknownField b.channel b.field)
  let field := (data.field? b.field).getD (.untyped b.field)
  let type := DataType.classify field (rows.filterMap (·.values[column]?)) b.type
  b.channel.checkAccepts type
  let values := distinctBy Value.key (rows.map (valueOf column))
  .ok ⟨some column, order type b.sort values⟩

/-- What rows are split into by a field, if there is one. -/
def ofBinding? (data : Dataset R) (rows : List (Row R)) (b : Option (FieldBinding R)) :
    Except (CompileError R) (FacetAxis R) :=
  match b with
  | some b => ofBinding data rows b
  | none => .ok single

end FacetAxis

/-- Some rows of a dataset split into columns by one field and into rows of a grid by another. -/
def partition (data : Dataset R) (rows : List (Row R)) (column row : Option (FieldBinding R)) :
    Except (CompileError R) (FacetGrid R) := do
  let columnAxis ← FacetAxis.ofBinding? data rows column
  let rowAxis ← FacetAxis.ofBinding? data rows row
  let cells := (List.range rowAxis.size).flatMap fun r =>
    (List.range columnAxis.size).map fun c =>
      { column := columnAxis.values[c]?
        row := rowAxis.values[r]?
        columnIndex := c
        rowIndex := r
        rows := rows.filter fun row => columnAxis.slot row == c && rowAxis.slot row == r }
  .ok ⟨columnAxis, rowAxis, cells⟩

end Charting
