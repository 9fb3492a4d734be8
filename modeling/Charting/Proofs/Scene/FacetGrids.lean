import Charting.Numeric.Exact
import Charting.Proofs.Data.Arrangement
import Charting.Proofs.Data.Rectangular
import Charting.Proofs.Scene.Facet
import Charting.Proofs.Scene.Grid

/-!
# Grids of cells

Rows of rectangular data, given by their positions, are split into a full grid: each axis has the
distinct values of a field in order (`FacetAxis.IsAxisOf`), each cell has the rows with the values of
the cell as they were listed, and each row that is listed fits one cell (`partition_isGridOf`).  A
row is looked up among the values of an axis by its key, and would be put into the first part if it
were not found; it always is (`FacetAxis.slot_eq_iff`).
-/

namespace Charting

variable {R : Type}

/-! ## Columns of listed rows -/

namespace Dataset

variable {data : Dataset R} {positions : List Nat} {name : String} {column : Nat}

/-- A row of rectangular data has a value in each column. -/
theorem IsRectangular.get?_eq (h : data.IsRectangular)
    (hcolumn : data.columnIndex? name = some column) {i : Nat} (hi : i < data.size) :
    data.get? i name = some (FacetAxis.valueOf column (data.rows[i]?.getD ⟨i, []⟩)) := by
  have hrow : data.rows[i]? = some data.rows[i] := List.getElem?_eq_getElem hi
  have hlt := h.lt_length_values hcolumn (List.getElem_mem hi)
  rw [get?, hcolumn, Option.bind_some, value?, hrow, Option.bind_some, Option.getD_some,
    FacetAxis.valueOf, List.getElem?_eq_getElem hlt, Option.getD_some]

theorem IsRectangular.map_valueOf_rowsAt (h : data.IsRectangular)
    (valid : ∀ i ∈ positions, i < data.size) (hcolumn : data.columnIndex? name = some column) :
    (data.rowsAt positions).map (FacetAxis.valueOf column) =
      positions.filterMap (data.get? · name) := by
  rw [rowsAt, List.map_map, ← List.filterMap_eq_map]
  exact List.filterMap_congr fun i hi ↦ (h.get?_eq hcolumn (valid i hi)).symm

end Dataset

variable [Scalar R]

/-! ## Values of facets -/

/-- How the values of a facet are sorted.  An order is taken from a list only if the field is
ordinal. -/
def DataType.facetSort (type : DataType) (sort : Option (SortOrder R)) : Option (SortOrder R) :=
  match sort with
  | some (.explicit order) => if type = .ordinal then some (.explicit order) else none
  | sort => sort

/-- The key of the value that a row is split by, if rows are split. -/
def Dataset.facetKey? (data : Dataset R) (b : Option (FieldBinding R)) (i : Nat) :
    Option (Value R) :=
  b.bind fun b ↦ (data.get? i b.field).map Value.key

/-- The number of parts that rows are split into: that of the different keys, or one if there are
none. -/
def Dataset.facetCount (data : Dataset R) (b : Option (FieldBinding R)) (positions : List Nat) :
    Nat :=
  max (positions.filterMap (data.facetKey? b)).dedup.length 1

/-- Whether a row has the values of a cell. -/
def FacetCell.Fits (cell : FacetCell R) (data : Dataset R) (column row : Option (FieldBinding R))
    (i : Nat) : Prop :=
  data.facetKey? column i = cell.column.map Value.key ∧
    data.facetKey? row i = cell.row.map Value.key

instance (cell : FacetCell R) (data : Dataset R) (column row : Option (FieldBinding R)) (i : Nat) :
    Decidable (cell.Fits data column row i) :=
  inferInstanceAs (Decidable (_ ∧ _))

/-! ## One axis -/

namespace FacetAxis

/-- An axis of a grid: it has the values of a field over the listed rows, in order.  Without a field
it has none. -/
def IsAxisOf (a : FacetAxis R) (data : Dataset R) (positions : List Nat) :
    (b : Option (FieldBinding R)) → Prop
  | none => a.values = []
  | some b => ∃ column, data.columnIndex? b.field = some column ∧
      IsArranged ((b.typeOver data (data.rowsAt positions) column).facetSort b.sort)
        (positions.filterMap (data.get? · b.field)) a.values

variable {data : Dataset R} {positions : List Nat} {b : Option (FieldBinding R)} {a : FacetAxis R}

theorem isArranged_order [Std.TransCmp (Scalar.totalOrder : R → R → Ordering)]
    [Std.LawfulEqCmp (Scalar.totalOrder : R → R → Ordering)] (type : DataType)
    (sort : Option (SortOrder R)) (values : List (Value R)) :
    IsArranged (type.facetSort sort) values (order type sort (distinctBy Value.key values)) := by
  cases sort with
  | none => exact isArranged_distinctBy values
  | some sort =>
      cases sort with
      | ascending => exact SortOrder.ascending.isArranged_apply values
      | descending => exact SortOrder.descending.isArranged_apply values
      | explicit vs =>
          rw [DataType.facetSort, order]
          split
          case isTrue => exact (SortOrder.explicit vs).isArranged_apply values
          case isFalse => exact isArranged_distinctBy values

section Binding

variable (rectangular : data.IsRectangular) (valid : ∀ i ∈ positions, i < data.size)
  (h : ofBinding? data (data.rowsAt positions) b = .ok a)

include rectangular valid h

theorem isAxisOf_ofBinding? [Std.TransCmp (Scalar.totalOrder : R → R → Ordering)]
    [Std.LawfulEqCmp (Scalar.totalOrder : R → R → Ordering)] : a.IsAxisOf data positions b := by
  cases b with
  | none =>
      rw [← Except.ok.inj h]
      rfl
  | some b =>
      obtain ⟨column, hcolumn, -, rfl⟩ := ofBinding_eq h
      refine ⟨column, hcolumn, ?_⟩
      rw [← rectangular.map_valueOf_rowsAt valid hcolumn]
      exact isArranged_order _ _ _

/-- A listed row is in the part whose value has the key of its own value. -/
theorem slot_eq_iff {i : Nat} (hi : i ∈ positions) {c : Nat} (hc : c < a.size) :
    a.slot (data.rows[i]?.getD ⟨i, []⟩) = c ↔
      data.facetKey? b i = a.values[c]?.map Value.key := by
  cases b with
  | none =>
      obtain rfl := Except.ok.inj h
      obtain rfl : c = 0 := Nat.lt_one_iff.mp hc
      exact iff_of_true rfl rfl
  | some b =>
      obtain ⟨column, hcolumn, -, hfield, hvalues⟩ := ofBinding_ok h
      have hkey := key_slot hfield hvalues (List.mem_map_of_mem hi)
      have distinct : (a.values.map Value.key).Nodup :=
        (hvalues.map Value.key).nodup_iff.mpr (nodup_map_distinctBy Value.key _)
      rw [Dataset.facetKey?, Option.bind_some, rectangular.get?_eq hcolumn (valid i hi),
        Option.map_some, ← hkey, ← List.getElem?_map, ← List.getElem?_map]
      rw [← List.getElem?_map] at hkey
      exact (List.getElem?_inj (List.getElem?_eq_some_iff.mp hkey).1 distinct).symm

end Binding

/-- An axis has as many parts as there are different keys. -/
theorem IsAxisOf.size_eq (h : a.IsAxisOf data positions b) :
    a.size = data.facetCount b positions := by
  rw [size, Dataset.facetCount]
  cases b with
  | none =>
      have hnone : positions.filterMap (data.facetKey? none) = [] :=
        List.filterMap_eq_nil_iff.mpr fun _ _ ↦ rfl
      rw [show a.values = [] from h, hnone]
      rfl
  | some b =>
      obtain ⟨column, -, harranged⟩ := h
      rw [harranged.length_eq, List.map_filterMap]
      rfl

end FacetAxis

/-! ## All cells -/

/-- The full grid of the cells that listed rows are split into. -/
structure FacetGrid.IsGridOf (grid : FacetGrid R) (data : Dataset R) (positions : List Nat)
    (column row : Option (FieldBinding R)) : Prop where
  /-- The columns have the distinct values of their field, in order. -/
  columns_isAxisOf : grid.columns.IsAxisOf data positions column
  /-- The rows of the grid have the distinct values of their field, in order. -/
  rows_isAxisOf : grid.rows.IsAxisOf data positions row
  /-- There is a cell for each column and each row of the grid. -/
  length_cells : grid.cells.length = data.facetCount row positions * data.facetCount column positions
  /-- The cells are listed row by row, and have the values of their column and row. -/
  getElem?_cells {c r : Nat} : c < data.facetCount column positions →
    r < data.facetCount row positions →
    ∃ cell, grid.cells[r * data.facetCount column positions + c]? = some cell ∧
      cell.columnIndex = c ∧ cell.rowIndex = r ∧
      cell.column = grid.columns.values[c]? ∧ cell.row = grid.rows.values[r]?
  /-- A cell has all rows with its values, as they are listed. -/
  rows_eq {cell : FacetCell R} : cell ∈ grid.cells →
    cell.rows = data.rowsAt (positions.filter (cell.Fits data column row ·))
  /-- Each row that is listed fits one cell. -/
  existsUnique_fits {i : Nat} : i ∈ positions →
    ∃! j : Nat, ∃ cell, grid.cells[j]? = some cell ∧ cell.Fits data column row i

section Partition

variable {data : Dataset R} {positions : List Nat} {column row : Option (FieldBinding R)}
  {grid : FacetGrid R}

section Cells

variable {rows : List (Row R)} (h : partition data rows column row = .ok grid)

include h

theorem axes_of_partition : FacetAxis.ofBinding? data rows column = .ok grid.columns ∧
    FacetAxis.ofBinding? data rows row = .ok grid.rows := by
  obtain ⟨columnAxis, hcolumns, h⟩ := bind_ok_iff.mp h
  obtain ⟨rowAxis, hrows, h⟩ := bind_ok_iff.mp h
  rw [← Except.ok.inj h]
  exact ⟨hcolumns, hrows⟩

theorem length_cells_of_partition :
    grid.cells.length = grid.rows.size * grid.columns.size := by
  rw [cells_eq_of_partition h]
  exact length_rowByRow _ _ _

theorem getElem?_cells_of_partition {c r : Nat} (hc : c < grid.columns.size)
    (hr : r < grid.rows.size) :
    grid.cells[r * grid.columns.size + c]? = some (grid.cellAt rows c r) := by
  rw [cells_eq_of_partition h]
  exact getElem?_rowByRow _ _ _ hc hr

/-- Every cell is in some column and some row of the grid. -/
theorem exists_cellAt_of_partition {j : Nat} {cell : FacetCell R}
    (hcell : grid.cells[j]? = some cell) :
    ∃ c < grid.columns.size, ∃ r < grid.rows.size,
      r * grid.columns.size + c = j ∧ grid.cellAt rows c r = cell := by
  have hj : j < grid.rows.size * grid.columns.size :=
    length_cells_of_partition h ▸ (List.getElem?_eq_some_iff.mp hcell).1
  obtain ⟨c, hc, r, hr, rfl⟩ := exists_rowByRow_index _ _ hj
  rw [getElem?_cells_of_partition h hc hr] at hcell
  exact ⟨c, hc, r, hr, rfl, Option.some.inj hcell⟩

end Cells

variable (rectangular : data.IsRectangular) (valid : ∀ i ∈ positions, i < data.size)
  (h : partition data (data.rowsAt positions) column row = .ok grid)

include rectangular valid h

/-- A listed row has the values of a cell if the axes put it there. -/
theorem fits_cellAt_iff (rows : List (Row R)) {c r i : Nat} (hc : c < grid.columns.size)
    (hr : r < grid.rows.size) (hi : i ∈ positions) :
    (grid.cellAt rows c r).Fits data column row i ↔
      grid.columns.slot (data.rows[i]?.getD ⟨i, []⟩) = c ∧
        grid.rows.slot (data.rows[i]?.getD ⟨i, []⟩) = r := by
  obtain ⟨hcolumns, hrows⟩ := axes_of_partition h
  rw [FacetAxis.slot_eq_iff rectangular valid hcolumns hi hc,
    FacetAxis.slot_eq_iff rectangular valid hrows hi hr]
  rfl

/-- A cell has the listed rows with its values. -/
theorem rows_cellAt_eq {c r : Nat} (hc : c < grid.columns.size) (hr : r < grid.rows.size) :
    (grid.cellAt (data.rowsAt positions) c r).rows = data.rowsAt (positions.filter
      ((grid.cellAt (data.rowsAt positions) c r).Fits data column row ·)) := by
  rw [FacetGrid.cellAt, Dataset.rowsAt, List.filter_map, Dataset.rowsAt]
  refine congrArg _ (List.filter_congr fun i hi ↦ ?_)
  have hfits := fits_cellAt_iff rectangular valid h (data.rowsAt positions) hc hr hi
  rw [Bool.eq_iff_iff, decide_eq_true_iff]
  refine Iff.trans ?_ hfits.symm
  simp

/-- A listed row has the values of one cell, which is in the column and the row of the grid where the
axes put the row. -/
theorem existsUnique_fits_cell {i : Nat} (hi : i ∈ positions) :
    ∃! j : Nat, ∃ cell, grid.cells[j]? = some cell ∧ cell.Fits data column row i := by
  have hc := FacetAxis.slot_lt_size grid.columns (data.rows[i]?.getD ⟨i, []⟩)
  have hr := FacetAxis.slot_lt_size grid.rows (data.rows[i]?.getD ⟨i, []⟩)
  refine ⟨_, ⟨_, getElem?_cells_of_partition h hc hr, ?_⟩, ?_⟩
  · exact (fits_cellAt_iff rectangular valid h _ hc hr hi).mpr ⟨rfl, rfl⟩
  · rintro j ⟨cell, hcell, hfits⟩
    obtain ⟨c, hc', r, hr', rfl, rfl⟩ := exists_cellAt_of_partition h hcell
    obtain ⟨rfl, rfl⟩ := (fits_cellAt_iff rectangular valid h _ hc' hr' hi).mp hfits
    rfl

/-- Listed rows of rectangular data are split into a full grid, in which every one of them is in the
one cell that has its values. -/
theorem partition_isGridOf [Std.TransCmp (Scalar.totalOrder : R → R → Ordering)]
    [Std.LawfulEqCmp (Scalar.totalOrder : R → R → Ordering)] :
    grid.IsGridOf data positions column row := by
  obtain ⟨hcolumns, hrows⟩ := axes_of_partition h
  have hcolumnAxis := FacetAxis.isAxisOf_ofBinding? rectangular valid hcolumns
  have hrowAxis := FacetAxis.isAxisOf_ofBinding? rectangular valid hrows
  refine ⟨hcolumnAxis, hrowAxis, ?_, fun {c r} hc hr ↦ ?_, fun {cell} hcell ↦ ?_,
    existsUnique_fits_cell rectangular valid h⟩
  · rw [length_cells_of_partition h, hcolumnAxis.size_eq, hrowAxis.size_eq]
  · rw [← hcolumnAxis.size_eq] at hc ⊢
    rw [← hrowAxis.size_eq] at hr
    exact ⟨_, getElem?_cells_of_partition h hc hr, rfl, rfl, rfl, rfl⟩
  · obtain ⟨j, hj⟩ := List.getElem?_of_mem hcell
    obtain ⟨c, hc, r, hr, -, rfl⟩ := exists_cellAt_of_partition h hj
    exact rows_cellAt_eq rectangular valid h hc hr

end Partition

/-! ### Harvests of some sites -/

/-- Harvests of three sites, and one whose site is not known. -/
def harvests : Dataset ℚ :=
  .ofRows [.untyped "site", .untyped "half"]
    [[.string "Morris", .string "early"], [.string "Crookston", .string "early"],
      [.string "Morris", .string "late"], [.null, .string "late"],
      [.string "Waseca", .string "early"]]

/-- Sites in an order that does not list all of them. -/
def siteColumns : FieldBinding ℚ :=
  { FieldBinding.plain .column "site" with
    type := some .ordinal
    sort := some (.explicit [.string "Waseca", .string "Duluth", .string "Waseca"]) }

/-- A chosen order of all harvests, and one of them twice. -/
def harvestPositions : List Nat := [1, 0, 2, 3, 4, 0]

theorem partition_isGridOf_harvests :
    harvests.IsRectangular ∧ (∀ i ∈ harvestPositions, i < harvests.size) ∧
    ∃ grid, partition harvests (harvests.rowsAt harvestPositions) (some siteColumns)
        (some (.plain .row "half")) = .ok grid ∧
      grid.columns.values = [.string "Waseca", .string "Crookston", .string "Morris", .null] ∧
      grid.cells.map (fun cell ↦ cell.rows.map Row.key) =
        [[4], [1], [0, 0], [], [], [], [2], [3]] ∧
      grid.IsGridOf harvests harvestPositions (some siteColumns) (some (.plain .row "half")) := by
  have hcomputed : (partition harvests (harvests.rowsAt harvestPositions) (some siteColumns)
      (some (.plain .row "half"))).toOption.map
        (fun grid ↦ (grid.columns.values, grid.cells.map fun cell ↦ cell.rows.map Row.key)) =
      some ([.string "Waseca", .string "Crookston", .string "Morris", .null],
        [[4], [1], [0, 0], [], [], [], [2], [3]]) := by
    decide +kernel
  obtain ⟨grid, h, hgrid⟩ := exists_ok_of_map_eq_some hcomputed
  obtain ⟨hvalues, hrows⟩ := Prod.mk.inj hgrid
  have hrectangular : harvests.IsRectangular := by decide
  have hvalid : ∀ i ∈ harvestPositions, i < harvests.size := by decide
  exact ⟨hrectangular, hvalid, grid, h, hvalues, hrows, partition_isGridOf hrectangular hvalid h⟩

end Charting
