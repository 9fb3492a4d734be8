import Charting.Proofs.Indexed.Drawing
import Charting.Proofs.Indexed.Layout
import Charting.Proofs.Scene.FacetGrids
import Charting.Proofs.Scene.Placement

/-!
# Placing with checked reads

The columns and the rows of a grid are counted over its cells, and its headers are looked for among
them.  Then the rectangles of cells and of their axes are read at positions that are worked out from
these counts.  There is a rectangle for each cell, so that all positions are inside the lists
(`Indexed.place_eq_ok`).
-/

namespace Charting.Indexed

variable {R α β : Type} [Scalar R]

/-! ## Counting over cells -/

/-- The number of columns or rows of a grid: one more than the last position among its cells, or one
if there are no cells. -/
def count (index : FacetCell R → Nat) (cells : List (FacetCell R)) : Nat :=
  ((cells.map fun cell => index cell + 1).max?).getD 1

/-- The texts of the headers of columns, which are looked for in the first row of cells. -/
def columnTexts (cells : List (FacetCell R)) : List String :=
  (List.range (count (·.columnIndex) cells)).filterMap fun c => do
    let cell ← cells.find? fun cell => cell.rowIndex == 0 && cell.columnIndex == c
    let v ← cell.column
    some v.text

/-- The texts of the headers of rows, which are looked for in the first column of cells. -/
def rowTexts (cells : List (FacetCell R)) : List String :=
  (List.range (count (·.rowIndex) cells)).filterMap fun r => do
    let cell ← cells.find? fun cell => cell.columnIndex == 0 && cell.rowIndex == r
    let v ← cell.row
    some v.text

/-- The guides of drawn cells, sorted out. -/
def gather (cells : List (FacetCell R)) (plots : List (CellPlot R)) : SharedPlots R :=
  let present := plots.filterMap (·.guides)
  let axes := Guides.sharedAxes present
  let legends := Guides.sharedLegends present
  { columns := count (·.columnIndex) cells
    rows := count (·.rowIndex) cells
    columnTexts := columnTexts cells
    rowTexts := rowTexts cells
    plots := plots
    shared := ⟨axes, legends⟩
    own := plots.map fun p => (p.guides.getD .none).own axes legends }

omit [Scalar R] in
/-- A count is found if it is just above all positions and one cell is at the last of them. -/
theorem count_eq {index : FacetCell R → Nat} {cells : List (FacetCell R)} {n : Nat}
    (hlt : ∀ cell ∈ cells, index cell < n) {last : FacetCell R} (hmem : last ∈ cells)
    (hlast : index last + 1 = n) : count index cells = n := by
  have hmax : (cells.map fun cell ↦ index cell + 1).max? = some n := by
    rw [List.max?_eq_some_iff]
    refine ⟨List.mem_map.mpr ⟨last, hmem, hlast⟩, fun k hk ↦ ?_⟩
    obtain ⟨cell, hcell, rfl⟩ := List.mem_map.mp hk
    exact hlt cell hcell
  rw [count, hmax, Option.getD_some]

omit [Scalar R] in
/-- The values of an axis are found at the positions of its parts, of which there is one if there
are no values. -/
theorem filterMap_values_range (a : FacetAxis R) (f : Value R → β) :
    ((List.range a.size).filterMap fun i ↦ a.values[i]?.map f) = a.values.map f := by
  have hvalues : (List.range a.size).filterMap (a.values[·]?) = a.values := by
    rw [FacetAxis.size]
    cases hempty : a.values with
    | nil => rfl
    | cons v values =>
        rw [Nat.max_eq_left (List.length_pos_iff.mpr (List.cons_ne_nil v values))]
        exact filterMap_getElem?_range _
  conv_rhs => rw [← hvalues]
  rw [List.map_filterMap]

section Grid

variable {data : Dataset R} {rows : List (Row R)} {column row : Option (FieldBinding R)}
  {grid : FacetGrid R} (h : Charting.partition data rows column row = .ok grid)

include h

theorem mem_cells_iff {cell : FacetCell R} : cell ∈ grid.cells ↔
    ∃ c < grid.columns.size, ∃ r < grid.rows.size, grid.cellAt rows c r = cell := by
  rw [cells_eq_of_partition h]
  simp only [List.mem_flatMap, List.mem_map, List.mem_range]
  constructor
  · rintro ⟨r, hr, c, hc, heq⟩
    exact ⟨c, hc, r, hr, heq⟩
  · rintro ⟨c, hc, r, hr, heq⟩
    exact ⟨r, hr, c, hc, heq⟩

/-- The grid has as many columns as are counted. -/
theorem count_columnIndex : count (·.columnIndex) grid.cells = grid.columns.size := by
  refine count_eq (fun cell hcell ↦ ?_) ((mem_cells_iff h).mpr ⟨grid.columns.size - 1,
    Nat.sub_one_lt grid.columns.size_pos.ne', 0, grid.rows.size_pos, rfl⟩)
    (Nat.sub_add_cancel grid.columns.size_pos)
  obtain ⟨c, hc, r, -, rfl⟩ := (mem_cells_iff h).mp hcell
  exact hc

/-- The grid has as many rows as are counted. -/
theorem count_rowIndex : count (·.rowIndex) grid.cells = grid.rows.size := by
  refine count_eq (fun cell hcell ↦ ?_) ((mem_cells_iff h).mpr ⟨0, grid.columns.size_pos,
    grid.rows.size - 1, Nat.sub_one_lt grid.rows.size_pos.ne', rfl⟩)
    (Nat.sub_add_cancel grid.rows.size_pos)
  obtain ⟨c, -, r, hr, rfl⟩ := (mem_cells_iff h).mp hcell
  exact hr

/-- A cell is found by its column and its row of the grid. -/
theorem find?_cellAt {c r : Nat} (hc : c < grid.columns.size) (hr : r < grid.rows.size)
    {p : FacetCell R → Bool}
    (hp : ∀ cell : FacetCell R, p cell = true ↔ cell.columnIndex = c ∧ cell.rowIndex = r) :
    grid.cells.find? p = some (grid.cellAt rows c r) := by
  have hmem : grid.cellAt rows c r ∈ grid.cells := (mem_cells_iff h).mpr ⟨c, hc, r, hr, rfl⟩
  have hsome : (grid.cells.find? p).isSome :=
    List.find?_isSome.mpr ⟨_, hmem, (hp _).mpr ⟨rfl, rfl⟩⟩
  obtain ⟨cell, hcell⟩ := Option.isSome_iff_exists.mp hsome
  obtain ⟨c', -, r', -, rfl⟩ := (mem_cells_iff h).mp (List.mem_of_find?_eq_some hcell)
  obtain ⟨hc', hr'⟩ := (hp _).mp (List.find?_some hcell)
  rw [hcell]
  exact congrArg₂ (fun c r ↦ some (grid.cellAt rows c r)) hc' hr'

/-- The texts that are found in the first row of cells are those of the columns. -/
theorem columnTexts_eq : columnTexts grid.cells = grid.columns.values.map Value.text := by
  rw [columnTexts, count_columnIndex h, ← filterMap_values_range]
  refine List.filterMap_congr fun c hc ↦ ?_
  rw [find?_cellAt h (List.mem_range.mp hc) grid.rows.size_pos fun cell ↦ by
    rw [Bool.and_eq_true, beq_iff_eq, beq_iff_eq, and_comm]]
  change (grid.columns.values[c]?.bind _) = _
  cases grid.columns.values[c]? <;> rfl

/-- The texts that are found in the first column of cells are those of the rows. -/
theorem rowTexts_eq : rowTexts grid.cells = grid.rows.values.map Value.text := by
  rw [rowTexts, count_rowIndex h, ← filterMap_values_range]
  refine List.filterMap_congr fun r hr ↦ ?_
  rw [find?_cellAt h grid.columns.size_pos (List.mem_range.mp hr) fun cell ↦ by
    rw [Bool.and_eq_true, beq_iff_eq, beq_iff_eq]]
  change (grid.rows.values[r]?.bind _) = _
  cases grid.rows.values[r]? <;> rfl

/-- What is counted and looked for among the cells is what the grid has. -/
theorem gather_eq (plots : List (CellPlot R)) :
    gather grid.cells plots = SharedPlots.ofPlots grid plots := by
  rw [gather, SharedPlots.ofPlots, count_columnIndex h, count_rowIndex h, columnTexts_eq h,
    rowTexts_eq h]

end Grid

/-! ## Placing -/

/-- Where a shared axis is drawn: beside the first cell of each row, or below the last cell of each
column. -/
def sharedPlacements (s : SharedPlots R) (layout : Layout R) (channel : Channel) :
    Except (Fault R) (List (Rect R)) := do
  let strips ←
    if channel = .y then (List.range s.rows).mapM fun r => read layout.axisLeft (r * s.columns)
    else
      (List.range s.columns).mapM fun c => read layout.axisBottom ((s.rows - 1) * s.columns + c)
  .ok (strips.filterMap id)

/-- Where an axis of the `i`-th cell is drawn. -/
def ownPlacement (layout : Layout R) (i : Nat) (channel : Channel) :
    Except (Fault R) (List (Rect R)) := do
  let strip ← if channel = .y then read layout.axisLeft i else read layout.axisBottom i
  .ok strip.toList

/-- The `i`-th cell with its axes in place. -/
def placeCell (layout : Layout R) (i : Nat) (plot : CellPlot R) (axes : List (Axis R))
    (legends : List (Legend R)) : Except (Fault R) (SceneCell R) := do
  let axes ← axes.mapM fun a => do
    let placements ← ownPlacement layout i a.channel
    .ok { a with placements := placements }
  let bounds ← read layout.cells i
  .ok
    { column := plot.cell.column
      row := plot.cell.row
      bounds := bounds
      marks := plot.marks
      axes := axes
      legends := legends }

/-- Everything in its place. -/
def place (s : SharedPlots R) (layout : Layout R) : Except (Fault R) (Scene R) := do
  let axes ← s.shared.axes.mapM fun a => do
    let placements ← sharedPlacements s layout a.channel
    .ok { a with placements := placements }
  let cellLegends :=
    SharedPlots.placeCellLegends s.own (layout.legends.drop s.shared.legends.length)
  let cells ← (s.plots.zip (s.own.zip cellLegends)).zipIdx.mapM fun ((plot, own, legends), i) =>
    placeCell layout i plot own.axes legends
  .ok
    { view := layout.view
      plot := layout.plot
      cells := cells
      axes := axes
      legends := SharedPlots.placeLegends s.shared.legends layout.legends
      headers := SharedPlots.placeHeaders s.columnTexts layout.columnHeaders ++
        SharedPlots.placeHeaders s.rowTexts layout.rowHeaders }

/-- There is a rectangle for every cell and for every axis that a cell can have. -/
structure Fits (s : SharedPlots R) (layout : Layout R) : Prop where
  /-- There is a column. -/
  columns_pos : 0 < s.columns
  /-- There is a row. -/
  rows_pos : 0 < s.rows
  /-- There are not more plots than cells. -/
  length_plots : s.plots.length ≤ s.rows * s.columns
  length_cells : layout.cells.length = s.rows * s.columns
  length_axisLeft : layout.axisLeft.length = s.rows * s.columns
  length_axisBottom : layout.axisBottom.length = s.rows * s.columns

omit [Scalar R] in
/-- Some of the optional entries of a list are read, and those that are there are kept. -/
theorem mapM_read_filterMap_id {xs : List (Option α)} {f : β → Nat} {bs : List β}
    (h : ∀ b ∈ bs, f b < xs.length) :
    (do let strips ← bs.mapM fun b => read xs (f b)
        .ok (strips.filterMap id) : Except (Fault R) (List α)) =
      .ok (bs.filterMap fun b ↦ xs[f b]?.join) := by
  rw [mapM_read_eq_ok h]
  refine congrArg Except.ok ?_
  rw [List.filterMap_filterMap]
  rfl

section Fits

variable {s : SharedPlots R} {layout : Layout R} (h : Fits s layout)

include h

omit [Scalar R] in
theorem sharedPlacements_eq_ok (channel : Channel) :
    sharedPlacements s layout channel = .ok (s.sharedPlacements layout channel) := by
  rw [sharedPlacements, SharedPlots.sharedPlacements]
  split
  case isTrue =>
    refine mapM_read_filterMap_id fun r hr ↦ ?_
    rw [h.length_axisLeft]
    exact rowByRow_index_lt h.columns_pos (List.mem_range.mp hr)
  case isFalse =>
    refine mapM_read_filterMap_id fun c hc ↦ ?_
    rw [h.length_axisBottom]
    exact rowByRow_index_lt (List.mem_range.mp hc) (Nat.sub_one_lt_of_lt h.rows_pos)

theorem placeCell_eq_ok {i : Nat} (hi : i < s.rows * s.columns) (plot : CellPlot R)
    (axes : List (Axis R)) (legends : List (Legend R)) :
    placeCell layout i plot axes legends =
      .ok (SharedPlots.placeCell layout i plot axes legends) := by
  have haxis : ∀ a ∈ axes, (do
      let placements ← ownPlacement layout i a.channel
      .ok { a with placements := placements } : Except (Fault R) (Axis R)) =
      .ok { a with placements := SharedPlots.ownPlacement layout i a.channel } := by
    intro a _
    rw [ownPlacement, SharedPlots.ownPlacement]
    split
    case isTrue =>
      have hlt := h.length_axisLeft.symm ▸ hi
      rw [read_getElem _ hlt, List.getElem?_eq_getElem hlt]
      rfl
    case isFalse =>
      have hlt := h.length_axisBottom.symm ▸ hi
      rw [read_getElem _ hlt, List.getElem?_eq_getElem hlt]
      rfl
  have hlt := h.length_cells.symm ▸ hi
  rw [placeCell, mapM_eq_ok_map haxis, read_getElem _ hlt, SharedPlots.placeCell,
    List.getElem?_eq_getElem hlt]
  rfl

/-- Everything is placed the same without checks. -/
theorem place_eq_ok : place s layout = .ok (s.place layout) := by
  have haxis : ∀ a ∈ s.shared.axes, (do
      let placements ← sharedPlacements s layout a.channel
      .ok { a with placements := placements } : Except (Fault R) (Axis R)) =
      .ok { a with placements := s.sharedPlacements layout a.channel } := by
    intro a _
    rw [sharedPlacements_eq_ok h]
    rfl
  rw [place, mapM_eq_ok_map haxis]
  refine bind_ok_iff.mpr ⟨_, rfl, bind_ok_iff.mpr ⟨_, mapM_eq_ok_map (g := fun x ↦
    SharedPlots.placeCell layout x.2 x.1.1 x.1.2.1.axes x.1.2.2) ?_, rfl⟩⟩
  rintro ⟨⟨plot, own, legends⟩, i⟩ hmem
  refine placeCell_eq_ok h ?_ plot own.axes legends
  have hget := List.mem_zipIdx_iff_getElem?.mp hmem
  obtain ⟨hi, -⟩ := List.getElem?_eq_some_iff.mp hget
  rw [List.length_zip] at hi
  exact hi.trans_le ((Nat.min_le_left _ _).trans h.length_plots)

end Fits

end Charting.Indexed
