import Mathlib.Data.List.ProdSigma
import Charting.Proofs.Data.Grouping
import Charting.Proofs.Data.Order
import Charting.Proofs.Encoding.Resolution
import Charting.Scene.Facet

/-!
# Cells conserve rows

A row belongs to one column and one row of a grid (`FacetAxis.slot`), whether or not its value is
among the values of the grid.  So the cells hold every row exactly once (`partition_perm`), and the
cell of a row is known (`mem_rows_iff_of_partition`).  Every value is in fact among the values of the
grid, so that rows in one cell have the same value (`key_eq_of_partition`).
-/

namespace Charting

variable {R : Type} [Scalar R]

/-- A row belongs to some part. -/
theorem FacetAxis.slot_lt_size (a : FacetAxis R) (row : Row R) : a.slot row < a.size := by
  rw [slot, size]
  cases a.field with
  | none => exact Nat.lt_of_lt_of_le Nat.one_pos (Nat.le_max_right _ _)
  | some column =>
      change (a.values.findIdx? fun v ↦ v.key = (valueOf column row).key).getD 0 < _
      cases hfound : a.values.findIdx? fun v ↦ v.key = (valueOf column row).key with
      | none => exact Nat.lt_of_lt_of_le Nat.one_pos (Nat.le_max_right _ _)
      | some i =>
          obtain ⟨hi, -⟩ := List.findIdx?_eq_some_iff_getElem.mp hfound
          exact Nat.lt_of_lt_of_le hi (Nat.le_max_left _ _)

namespace FacetGrid

/-- The cell of some rows in a column and a row of the grid. -/
def cellAt (grid : FacetGrid R) (rows : List (Row R)) (c r : Nat) : FacetCell R :=
  { column := grid.columns.values[c]?
    row := grid.rows.values[r]?
    columnIndex := c
    rowIndex := r
    rows := rows.filter fun row ↦ grid.columns.slot row == c && grid.rows.slot row == r }

/-- The cell that a row belongs to. -/
def cellOf (grid : FacetGrid R) (rows : List (Row R)) (row : Row R) : FacetCell R :=
  grid.cellAt rows (grid.columns.slot row) (grid.rows.slot row)

/-- Whether a row belongs to the column and the row of the grid of a cell. -/
def holds (grid : FacetGrid R) (cell : FacetCell R) (row : Row R) : Bool :=
  grid.columns.slot row == cell.columnIndex && grid.rows.slot row == cell.rowIndex

theorem mem_rows_cellAt {grid : FacetGrid R} {rows : List (Row R)} {c r : Nat} {row : Row R} :
    row ∈ (grid.cellAt rows c r).rows ↔
      row ∈ rows ∧ grid.columns.slot row = c ∧ grid.rows.slot row = r := by
  simp [cellAt]

end FacetGrid

section Partition

variable {data : Dataset R} {rows : List (Row R)} {column row : Option (FieldBinding R)}
  {grid : FacetGrid R} (h : partition data rows column row = .ok grid)

include h

/-- A grid has a cell for each column and each row of the grid. -/
theorem cells_eq_of_partition :
    grid.cells = (List.range grid.rows.size).flatMap fun r ↦
      (List.range grid.columns.size).map fun c ↦ grid.cellAt rows c r := by
  obtain ⟨columnAxis, -, h⟩ := bind_ok_iff.mp h
  obtain ⟨rowAxis, -, h⟩ := bind_ok_iff.mp h
  rw [← Except.ok.inj h]
  rfl

theorem cellOf_mem_of_partition (row : Row R) : grid.cellOf rows row ∈ grid.cells := by
  rw [cells_eq_of_partition h]
  refine List.mem_flatMap.mpr ⟨_, List.mem_range.mpr (FacetAxis.slot_lt_size _ row), ?_⟩
  exact List.mem_map.mpr ⟨_, List.mem_range.mpr (FacetAxis.slot_lt_size _ row), rfl⟩

/-- A row is in its own cell and in no other. -/
theorem mem_rows_iff_of_partition {cell : FacetCell R} (hcell : cell ∈ grid.cells) {row : Row R} :
    row ∈ cell.rows ↔ row ∈ rows ∧ cell = grid.cellOf rows row := by
  rw [cells_eq_of_partition h] at hcell
  obtain ⟨r, -, hcell⟩ := List.mem_flatMap.mp hcell
  obtain ⟨c, -, rfl⟩ := List.mem_map.mp hcell
  rw [FacetGrid.mem_rows_cellAt]
  constructor
  · rintro ⟨hrow, rfl, rfl⟩
    exact ⟨hrow, rfl⟩
  · rintro ⟨hrow, heq⟩
    exact ⟨hrow, (congrArg FacetCell.columnIndex heq).symm, (congrArg FacetCell.rowIndex heq).symm⟩

/-- A cell holds all rows that belong to its column and its row of the grid, in order. -/
theorem rows_eq_of_partition {cell : FacetCell R} (hcell : cell ∈ grid.cells) :
    cell.rows = rows.filter (grid.holds cell) := by
  rw [cells_eq_of_partition h] at hcell
  obtain ⟨r, -, hcell⟩ := List.mem_flatMap.mp hcell
  obtain ⟨c, -, rfl⟩ := List.mem_map.mp hcell
  rfl

/-- The cells hold all rows, and each of them once. -/
theorem partition_perm : (grid.cells.flatMap (·.rows)).Perm rows := by
  have hsplit : grid.cells.flatMap (·.rows) =
      (List.range grid.rows.size ×ˢ List.range grid.columns.size).flatMap fun k ↦
        rows.filter fun row ↦ (grid.rows.slot row, grid.columns.slot row) = k := by
    change _ = ((List.range grid.rows.size).flatMap fun r ↦
      (List.range grid.columns.size).map (Prod.mk r)).flatMap _
    rw [cells_eq_of_partition h, List.flatMap_assoc, List.flatMap_assoc]
    refine List.flatMap_congr fun r _ ↦ ?_
    rw [List.flatMap_map, List.flatMap_map]
    refine List.flatMap_congr fun c _ ↦ List.filter_congr fun row _ ↦ ?_
    rw [Bool.eq_iff_iff]
    simp [and_comm]
  rw [hsplit]
  refine flatMap_filter_perm (List.nodup_range.product List.nodup_range) fun row _ ↦ ?_
  exact List.mem_product.mpr ⟨List.mem_range.mpr (FacetAxis.slot_lt_size _ row),
    List.mem_range.mpr (FacetAxis.slot_lt_size _ row)⟩

end Partition

/-! ## The value of a cell -/

namespace FacetAxis

/-- The values of an axis are put in order, and none is lost. -/
theorem order_perm (type : DataType) (sort : Option (SortOrder R)) (values : List (Value R)) :
    (order type sort values).Perm values := by
  unfold order
  split
  · split
    · exact explicitOrder_perm _ _
    · exact .refl _
  · exact SortOrder.apply_perm _ _
  · exact .refl _

/-- An axis has the distinct values of a field over all rows, in order, and the field suits its
channel. -/
theorem ofBinding_eq {data : Dataset R} {rows : List (Row R)} {b : FieldBinding R} {a : FacetAxis R}
    (h : ofBinding data rows b = .ok a) :
    ∃ column, data.columnIndex? b.field = some column ∧
      b.channel.accepts (b.typeOver data rows column) = true ∧
      a = ⟨some column, order (b.typeOver data rows column) b.sort
        (distinctBy Value.key (rows.map (valueOf column)))⟩ := by
  rw [ofBinding] at h
  cases hcolumn : data.columnIndex? b.field with
  | none =>
      rw [hcolumn] at h
      cases h
  | some column =>
      rw [hcolumn] at h
      obtain ⟨⟨⟩, haccepts, h⟩ := bind_ok_iff.mp h
      exact ⟨column, rfl, Channel.checkAccepts_ok_iff.mp haccepts, (Except.ok.inj h).symm⟩

/-- The values of an axis are the values of a field over all rows, and the field suits its
channel. -/
theorem ofBinding_ok {data : Dataset R} {rows : List (Row R)} {b : FieldBinding R} {a : FacetAxis R}
    (h : ofBinding data rows b = .ok a) :
    ∃ column, data.columnIndex? b.field = some column ∧
      b.channel.accepts (b.typeOver data rows column) = true ∧ a.field = some column ∧
      a.values.Perm (distinctBy Value.key (rows.map (valueOf column))) := by
  obtain ⟨column, hcolumn, haccepts, rfl⟩ := ofBinding_eq h
  exact ⟨column, hcolumn, haccepts, rfl, order_perm _ _ _⟩

/-- The part of a row is the one of its value. -/
theorem key_slot {rows : List (Row R)} {a : FacetAxis R} {column : Nat}
    (hfield : a.field = some column)
    (hvalues : a.values.Perm (distinctBy Value.key (rows.map (valueOf column)))) {row : Row R}
    (hrow : row ∈ rows) :
    (a.values[a.slot row]?).map Value.key = some (valueOf column row).key := by
  have hkey : (valueOf column row).key ∈ a.values.map Value.key := by
    rw [(hvalues.map Value.key).mem_iff, mem_map_distinctBy]
    exact List.mem_map_of_mem (List.mem_map_of_mem hrow)
  obtain ⟨v, hv, hvkey⟩ := List.mem_map.mp hkey
  have hfound : (a.values.findIdx? fun v ↦ v.key = (valueOf column row).key).isSome := by
    rw [List.findIdx?_isSome, List.any_eq_true]
    exact ⟨v, hv, decide_eq_true hvkey⟩
  obtain ⟨i, hi⟩ := Option.isSome_iff_exists.mp hfound
  have hslot : a.slot row = i := by
    rw [slot, hfield]
    exact congrArg (Option.getD · 0) hi
  obtain ⟨hlt, hvi, -⟩ := List.findIdx?_eq_some_iff_getElem.mp hi
  rw [hslot, List.getElem?_eq_getElem hlt]
  exact congrArg some (of_decide_eq_true hvi)

end FacetAxis

/-- The rows of a cell have the same value in each field that rows are split by. -/
theorem key_eq_of_partition {data : Dataset R} {rows : List (Row R)}
    {columns gridRows : Option (FieldBinding R)} {grid : FacetGrid R}
    (h : partition data rows columns gridRows = .ok grid) {cell : FacetCell R}
    (hcell : cell ∈ grid.cells) {b : FieldBinding R} (hb : columns = some b ∨ gridRows = some b) :
    ∃ column, data.columnIndex? b.field = some column ∧
      b.channel.accepts (b.typeOver data rows column) = true ∧
      ∀ row ∈ cell.rows, ∀ row' ∈ cell.rows,
        (FacetAxis.valueOf column row).key = (FacetAxis.valueOf column row').key := by
  -- Either axis puts all rows of the cell into one part.
  obtain ⟨a, i, ha, hslot⟩ : ∃ a i, FacetAxis.ofBinding data rows b = .ok a ∧
      ∀ row ∈ cell.rows, row ∈ rows ∧ a.slot row = i := by
    have hrows : ∀ row ∈ cell.rows, row ∈ rows ∧ grid.columns.slot row = cell.columnIndex ∧
        grid.rows.slot row = cell.rowIndex := by
      intro row hrow
      rw [rows_eq_of_partition h hcell, List.mem_filter, FacetGrid.holds, Bool.and_eq_true,
        beq_iff_eq, beq_iff_eq] at hrow
      exact hrow
    obtain ⟨columnAxis, hcolumns, h⟩ := bind_ok_iff.mp h
    obtain ⟨rowAxis, hgridRows, h⟩ := bind_ok_iff.mp h
    obtain rfl := Except.ok.inj h
    rcases hb with rfl | rfl
    · exact ⟨columnAxis, _, hcolumns, fun row hrow ↦ ⟨(hrows row hrow).1, (hrows row hrow).2.1⟩⟩
    · exact ⟨rowAxis, _, hgridRows, fun row hrow ↦ ⟨(hrows row hrow).1, (hrows row hrow).2.2⟩⟩
  obtain ⟨column, hcolumn, haccepts, hfield, hvalues⟩ := FacetAxis.ofBinding_ok ha
  refine ⟨column, hcolumn, haccepts, fun row hrow row' hrow' ↦ ?_⟩
  obtain ⟨hmem, hi⟩ := hslot row hrow
  obtain ⟨hmem', hi'⟩ := hslot row' hrow'
  have hkey := FacetAxis.key_slot hfield hvalues hmem
  rw [hi, ← hi', FacetAxis.key_slot hfield hvalues hmem'] at hkey
  exact (Option.some.inj hkey).symm

end Charting
