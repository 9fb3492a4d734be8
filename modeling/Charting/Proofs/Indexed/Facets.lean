import Charting.Proofs.Data.Selection
import Charting.Proofs.Indexed.Aggregation
import Charting.Proofs.Scene.Facet
import Charting.Proofs.Scene.Grid

/-!
# Cells with checked reads

The cells of a grid are listed row by row, at first without rows.  Every row has a slot on each
axis, both of which are listed by the position of the row, and together they give the position of
its cell.  The cells are filled with positions of rows, and a row is looked up by its position when
its cell is drawn.  All these positions are inside their lists (`Indexed.partition_eq`).
-/

namespace Charting.Indexed

variable {R α : Type}

/-! ## Lists row by row -/

/-- The entry of a cell is changed, and the other entries stay. -/
theorem modify_rowByRow {rows columns c r : Nat} (f : (column row : Nat) → α) (hc : c < columns)
    (hr : r < rows) (g : α → α) :
    (modify ((List.range rows).flatMap fun r ↦ (List.range columns).map fun c ↦ f c r)
      (r * columns + c) g : Except (Fault R) (List α)) =
      .ok ((List.range rows).flatMap fun r' ↦ (List.range columns).map fun c' ↦
        if c' = c ∧ r' = r then g (f c' r') else f c' r') := by
  rw [modify_eq_ok (getElem?_rowByRow rows columns f hc hr)]
  refine congrArg Except.ok (List.ext_getElem? fun i ↦ ?_)
  by_cases hi : i < rows * columns
  · obtain ⟨c', hc', r', hr', rfl⟩ := exists_rowByRow_index rows columns hi
    rw [getElem?_rowByRow rows columns _ hc' hr', List.getElem?_set]
    by_cases hcell : c' = c ∧ r' = r
    · obtain ⟨rfl, rfl⟩ := hcell
      rw [if_pos rfl, if_pos (by rwa [length_rowByRow]), if_pos ⟨rfl, rfl⟩]
    · rw [if_neg fun h ↦ hcell (rowByRow_index_inj hc hc' h.symm), if_neg hcell,
        getElem?_rowByRow rows columns f hc' hr']
  · rw [List.getElem?_eq_none (by rwa [List.length_set, length_rowByRow, ← Nat.not_lt]),
      List.getElem?_eq_none (by rwa [length_rowByRow, ← Nat.not_lt])]

/-! ## Filling cells -/

/-- A cell with the positions of its rows. -/
structure Cell (R : Type) where
  /-- The value of the column, if rows are split into columns. -/
  column : Option (Value R)
  /-- The value of the row of the grid, if rows are split into rows of the grid. -/
  row : Option (Value R)
  /-- The position of the column. -/
  columnIndex : Nat
  /-- The position of the row of the grid. -/
  rowIndex : Nat
  /-- The positions of the rows of the cell. -/
  positions : List Nat

/-- The cell with its rows. -/
def Cell.withRows (data : Dataset R) (cell : Cell R) : Except (Fault R) (FacetCell R) := do
  let rows ← cell.positions.mapM (read data.rows)
  .ok ⟨cell.column, cell.row, cell.columnIndex, cell.rowIndex, rows⟩

/-- The cells of a grid, row by row, with some positions. -/
def cellList (columns rows : FacetAxis R) (positions : (column row : Nat) → List Nat) :
    List (Cell R) :=
  (List.range rows.size).flatMap fun r => (List.range columns.size).map fun c =>
    ⟨columns.values[c]?, rows.values[r]?, c, r, positions c r⟩

/-- The position of a row is added to the cell at the slots of the row. -/
def fill (columns : Nat) (columnSlots rowSlots : List Nat) (cells : List (Cell R)) (i : Nat) :
    Except (Fault R) (List (Cell R)) := do
  let r ← read rowSlots i
  let c ← read columnSlots i
  modify cells (r * columns + c) fun cell => { cell with positions := cell.positions ++ [i] }

variable [Scalar R]

/-- What rows are split into by a field, if there is one. -/
def axis (data : Dataset R) (b : Option (FieldBinding R)) : Except (Fault R) (FacetAxis R) :=
  match b with
  | none => .ok .single
  | some b =>
    match data.columnIndex? b.field with
    | none => .error (.failed (.unknownField b.channel b.field))
    | some column => do
      let field ← read data.fields column
      let values ← columnValues data.rows column
      let type := DataType.classify field values b.type
      lift (b.channel.checkAccepts type)
      .ok ⟨some column, FacetAxis.order type b.sort (distinctBy Value.key values)⟩

/-- The rows of a dataset split into columns by one field and into rows of a grid by another. -/
def partition (data : Dataset R) (column row : Option (FieldBinding R)) :
    Except (Fault R) (List (Cell R)) := do
  let columns ← axis data column
  let rows ← axis data row
  data.indices.foldlM (fill columns.size (data.rows.map columns.slot) (data.rows.map rows.slot))
    (cellList columns rows fun _ _ => [])

/-! ## All positions are there -/

omit [Scalar R] in
/-- In a column that is found, rows of rectangular data are split by the values that they have. -/
theorem filterMap_eq_map_valueOf {data : Dataset R} (h : data.IsRectangular) {name : String}
    {column : Nat} (hcolumn : data.columnIndex? name = some column) :
    data.rows.filterMap (·.values[column]?) = data.rows.map (FacetAxis.valueOf column) := by
  rw [← List.filterMap_eq_map]
  refine List.filterMap_congr fun row hrow ↦ ?_
  have hv := List.getElem?_eq_getElem (h.lt_length_values hcolumn hrow)
  rw [hv, Function.comp_apply, FacetAxis.valueOf, hv, Option.getD_some]

/-- Axes over rectangular data are the same without checks. -/
theorem axis_eq {data : Dataset R} (h : data.IsRectangular) (b : Option (FieldBinding R)) :
    axis data b = lift (FacetAxis.ofBinding? data data.rows b) := by
  cases b with
  | none => rfl
  | some b =>
      rw [axis, FacetAxis.ofBinding?, FacetAxis.ofBinding]
      cases hcolumn : data.columnIndex? b.field with
      | none => rfl
      | some column =>
          have hfield := List.getElem?_eq_getElem (Dataset.lt_length_fields hcolumn)
          have hvalues := columnValues_eq_ok (R := R) h hcolumn fun _ hrow ↦ hrow
          simp only [read_eq_ok hfield, field?_eq_getElem? hcolumn, hfield, Option.getD_some,
            hvalues, ← filterMap_eq_map_valueOf h hcolumn]
          exact bind_lift rfl fun _ _ ↦ rfl

/-- Whether the row at a position belongs to a column and a row of a grid. -/
def belongs (data : Dataset R) (columns rows : FacetAxis R) (c r i : Nat) : Bool :=
  data.rows[i]?.any fun row ↦ columns.slot row == c && rows.slot row == r

/-- One more row is put into its cell. -/
theorem fill_eq_ok {data : Dataset R} (columns rows : FacetAxis R)
    (positions : (column row : Nat) → List Nat) {i : Nat} (hi : i < data.rows.length) :
    fill columns.size (data.rows.map columns.slot) (data.rows.map rows.slot)
        (cellList columns rows positions) i =
      .ok (cellList columns rows fun c r ↦
        positions c r ++ if belongs data columns rows c r i then [i] else []) := by
  have hrow := List.getElem?_eq_getElem hi
  have hslot : ∀ a : FacetAxis R, (data.rows.map a.slot)[i]? = some (a.slot data.rows[i]) := by
    intro a
    rw [List.getElem?_map, hrow, Option.map_some]
  rw [fill, read_eq_ok (hslot rows), read_eq_ok (hslot columns)]
  refine (modify_rowByRow _ (columns.slot_lt_size _) (rows.slot_lt_size _) _).trans
    (congrArg Except.ok (List.flatMap_congr fun r _ ↦ List.map_congr_left fun c _ ↦ ?_))
  have hbelongs : belongs data columns rows c r i =
      (columns.slot data.rows[i] == c && rows.slot data.rows[i] == r) := by
    rw [belongs, hrow, Option.any_some]
  simp only [hbelongs]
  by_cases hcell : c = columns.slot data.rows[i] ∧ r = rows.slot data.rows[i]
  · obtain ⟨rfl, rfl⟩ := hcell
    rw [if_pos ⟨rfl, rfl⟩, beq_self_eq_true, beq_self_eq_true, Bool.and_self, if_pos rfl]
  · have hfalse : (columns.slot data.rows[i] == c && rows.slot data.rows[i] == r) = false :=
      Bool.eq_false_iff.mpr fun h ↦ by
        rw [Bool.and_eq_true, beq_iff_eq, beq_iff_eq] at h
        exact hcell ⟨h.1.symm, h.2.symm⟩
    rw [if_neg hcell, hfalse, if_neg Bool.false_ne_true, List.append_nil]

/-- Rows are put into their cells one after another. -/
theorem foldlM_fill_eq_ok {data : Dataset R} (columns rows : FacetAxis R)
    (positions : (column row : Nat) → List Nat) {added : List Nat}
    (hadded : ∀ i ∈ added, i < data.rows.length) :
    added.foldlM (fill columns.size (data.rows.map columns.slot) (data.rows.map rows.slot))
        (cellList columns rows positions) =
      .ok (cellList columns rows fun c r ↦
        positions c r ++ added.filter (belongs data columns rows c r)) := by
  induction added generalizing positions with
  | nil => simp [pure, Except.pure]
  | cons i added ih =>
      obtain ⟨hi, hadded⟩ := List.forall_mem_cons.mp hadded
      rw [List.foldlM_cons, fill_eq_ok columns rows positions hi]
      refine (ih _ hadded).trans (congrArg (Except.ok ∘ cellList columns rows) ?_)
      funext c r
      rw [List.filter_cons, List.append_assoc]
      split <;> rfl

/-- The cells of a grid are filled with the positions of their rows. -/
theorem partition_eq {data : Dataset R} (h : data.IsRectangular)
    (column row : Option (FieldBinding R)) :
    partition data column row =
      lift ((Charting.partition data data.rows column row).map fun grid ↦
        cellList grid.columns grid.rows fun c r ↦
          data.indices.filter (belongs data grid.columns grid.rows c r)) := by
  rw [partition, Charting.partition, axis_eq h, axis_eq h]
  cases FacetAxis.ofBinding? data data.rows column with
  | error e => rfl
  | ok columns =>
      cases FacetAxis.ofBinding? data data.rows row with
      | error e => rfl
      | ok rows => exact foldlM_fill_eq_ok columns rows _ fun i hi ↦ List.mem_range.mp hi

/-- The rows of all cells are found at their positions. -/
theorem mapM_withRows_eq_ok {data : Dataset R} {column row : Option (FieldBinding R)}
    {grid : FacetGrid R} (h : Charting.partition data data.rows column row = .ok grid) :
    (cellList grid.columns grid.rows fun c r ↦
      data.indices.filter (belongs data grid.columns grid.rows c r)).mapM (Cell.withRows data) =
      (.ok grid.cells : Except (Fault R) (List (FacetCell R))) := by
  have hread : ∀ cell ∈ cellList grid.columns grid.rows fun c r ↦
      data.indices.filter (belongs data grid.columns grid.rows c r),
      (cell.withRows data : Except (Fault R) (FacetCell R)) = .ok ⟨cell.column, cell.row,
        cell.columnIndex, cell.rowIndex, cell.positions.filterMap (data.rows[·]?)⟩ := by
    intro cell hcell
    obtain ⟨r, -, hcell⟩ := List.mem_flatMap.mp hcell
    obtain ⟨c, -, rfl⟩ := List.mem_map.mp hcell
    refine bind_ok_iff.mpr ⟨_, mapM_read_eq_ok fun i hi ↦ ?_, rfl⟩
    exact List.mem_range.mp (List.mem_filter.mp hi).1
  rw [mapM_eq_ok_map hread, cellList, cells_eq_of_partition h, List.map_flatMap]
  refine congrArg Except.ok (List.flatMap_congr fun r _ ↦ ?_)
  rw [List.map_map]
  refine List.map_congr_left fun c _ ↦ ?_
  exact congrArg (FacetCell.mk _ _ _ _) (data.rows_select_filter _)

end Charting.Indexed
