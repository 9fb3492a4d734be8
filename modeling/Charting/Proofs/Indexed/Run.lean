import Charting.Proofs.Indexed.Placing
import Charting.Proofs.Scene.MissingCells
import Charting.Proofs.Scene.Rows

/-!
# Runs with checked reads

A run applies the filters of a chart and compiles what is left.  With checked reads it stops
wherever a list is read at a position that it does not have.  Over rectangular data it never does:
it ends as it does without checks, with a scene or with an error that tells of something else than a
missing cell (`Indexed.run_staysInside`).

For filters, a value that a row does not have is no value at all, so that they cannot read past an
end: they are the same in both runs, and what passes them is looked at with checks.
-/

namespace Charting

variable {R : Type} [Scalar R]

/-- The filters of a chart are applied, and what is left is compiled. -/
def ChartSpec.run (spec : ChartSpec R) (data : Dataset R) (params : ParamLookup R)
    (config : Config R) (m : TextMeasurer R) : Except (CompileError R) (Scene R) := do
  let part ← spec.filterData data params
  spec.compile part config m

namespace Indexed

/-- The scene of a chart over rows that have passed its filters. -/
def compile (spec : ChartSpec R) (data : Dataset R) (config : Config R) (m : TextMeasurer R) :
    Except (Fault R) (Scene R) := do
  lift spec.view.checkChannels
  let p ← prepare spec.view data
  let cells ← partition p.data (p.view.field? .column) (p.view.field? .row)
  let cells ← cells.mapM (Cell.withRows p.data)
  let size := spec.cellSize (count (·.columnIndex) cells) (count (·.rowIndex) cells) config
  let plots ← plots p cells spec.facet.independentScales size config
  let shared := gather cells plots
  let layout ← arrange (shared.layoutSpec size config m)
  place shared layout

/-- The filters of a chart are applied, and what is left is compiled. -/
def run (spec : ChartSpec R) (data : Dataset R) (params : ParamLookup R) (config : Config R)
    (m : TextMeasurer R) : Except (Fault R) (Scene R) := do
  let part ← lift (spec.filterData data params)
  compile spec part config m

/-- There is a rectangle for everything that is drawn. -/
theorem fits_arrange {data : Dataset R} {column row : Option (FieldBinding R)} {grid : FacetGrid R}
    (hgrid : Charting.partition data data.rows column row = .ok grid) {p : PreparedView R}
    {independent : Bool} {size : Size R} {config : Config R} {plots : List (CellPlot R)}
    (hplots : p.plots grid.cells independent size config = .ok plots) (m : TextMeasurer R) :
    Fits (SharedPlots.ofPlots grid plots)
      ((SharedPlots.ofPlots grid plots).layoutSpec size config m).arrange := by
  have hlength : ∀ {α : Type} (f : (column row : Nat) → α),
      (((SharedPlots.ofPlots grid plots).layoutSpec size config m).perCell f).length =
        grid.rows.size * grid.columns.size := by
    intro α f
    rw [LayoutSpec.length_perCell, SharedPlots.columnCount_layoutSpec,
      SharedPlots.rowCount_layoutSpec]
  exact
    { columns_pos := grid.columns.size_pos
      rows_pos := grid.rows.size_pos
      length_plots := Nat.le_of_eq <|
        (PreparedView.isPlot_of_plots hplots).length_eq.symm.trans (length_cells_of_partition hgrid)
      length_cells := hlength _
      length_axisLeft := hlength _
      length_axisBottom := hlength _ }

/-- Rectangular data is compiled the same without checks. -/
theorem compile_eq (spec : ChartSpec R) {data : Dataset R} (h : data.IsRectangular)
    (config : Config R) (m : TextMeasurer R) :
    compile spec data config m = lift (spec.compile data config m) := by
  rw [compile, ChartSpec.compile]
  refine bind_lift rfl fun _ _ ↦ bind_lift (prepare_eq spec.view h) fun p hp ↦ ?_
  have hdata := ViewSpec.isRectangular_of_prepare h hp
  refine bind_eq_lift (partition_eq hdata _ _) fun grid hgrid ↦ ?_
  rw [mapM_withRows_eq_ok hgrid]
  change (do
    let plots ← plots p grid.cells spec.facet.independentScales
      (spec.cellSize (count (·.columnIndex) grid.cells) (count (·.rowIndex) grid.cells) config)
      config
    let layout ← arrange ((gather grid.cells plots).layoutSpec _ config m)
    place (gather grid.cells plots) layout) = _
  rw [count_columnIndex hgrid, count_rowIndex hgrid]
  have hrows : ∀ cell ∈ grid.cells, ∀ row ∈ cell.rows, row ∈ p.data.rows := fun _ hcell _ hrow ↦
    ((mem_rows_iff_of_partition hgrid hcell).mp hrow).1
  refine bind_lift (plots_eq hdata hrows _ _ config) fun plots hplots ↦ ?_
  rw [gather_eq hgrid, arrange_eq_ok]
  exact place_eq_ok (fits_arrange hgrid hplots m)

/-- A run over rectangular data is the same without checks. -/
theorem run_eq (spec : ChartSpec R) {data : Dataset R} (h : data.IsRectangular)
    (params : ParamLookup R) (config : Config R) (m : TextMeasurer R) :
    run spec data params config m = lift (spec.run data params config m) :=
  bind_lift rfl fun _ hpart ↦
    compile_eq spec ((ChartSpec.filterData_isSelection hpart).isRectangular h) config m

/-- Lists that are read where their length has just been looked at, which come to the same without
checks whatever is in them. -/
structure GuardedReads (R : Type) [Scalar R] : Prop where
  /-- Palettes and ranges that are repeated without end. -/
  cycle_eq {α : Type} (xs : List α) (i : Nat) :
    (cycle xs i : Except (Fault R) (Option α)) = .ok (cycle? xs i)
  /-- The stops of gradients. -/
  interpolate_eq (stops : List (Color R)) (t : R) :
    interpolate stops t = .ok (Palette.interpolate? stops t)
  /-- The ends of ranges of numbers. -/
  rangeEnds_eq (usual : R × R) (given : Option (RangeOverride R)) :
    rangeEnds usual given = .ok (ScaleRequest.rangeEnds? usual given)
  /-- The values that are left while others are put in order. -/
  explicitOrder_eq (observed order : List (Value R)) :
    explicitOrder observed order = .ok (Charting.explicitOrder observed order)

/-- A run over rectangular data reads no list at a position that it does not have: with checked
reads it ends as it does without them, with a scene or with an error that is not about a missing
cell. -/
theorem run_staysInside (spec : ChartSpec R) {data : Dataset R} (h : data.IsRectangular)
    (params : ParamLookup R) (config : Config R) (m : TextMeasurer R) :
    run spec data params config m = lift (spec.run data params config m) ∧
      ((∃ scene, run spec data params config m = .ok scene) ∨
        ∃ e, run spec data params config m = .error (.failed e) ∧
          ∀ key column, e ≠ .data (.missingCell key column)) ∧
      GuardedReads R := by
  have hrun := run_eq spec h params config m
  refine ⟨hrun, ?_, cycle_eq, interpolate_eq, rangeEnds_eq, explicitOrder_eq⟩
  have hcells : FindsCells (spec.run data params config m) :=
    .bind (spec.findsCells_filterData data params) fun part hpart ↦
      spec.findsCells_compile ((ChartSpec.filterData_isSelection hpart).isRectangular h) config m
  rw [hrun]
  cases hresult : spec.run data params config m with
  | ok scene => exact .inl ⟨scene, rfl⟩
  | error e =>
      refine .inr ⟨e, rfl, fun key column he ↦ ?_⟩
      rw [he] at hresult
      exact hcells key column hresult

/-- The mean harvests of each year are read, grouped, put into the cells of their fields and drawn
without reading past the end of a list. -/
theorem run_staysInside_harvests : ChartSpec.harvests.IsRectangular ∧
    ∃ scene, run ChartSpec.harvestSpec ChartSpec.harvests (fun _ ↦ none) .standard .heuristic =
        .ok scene ∧
      scene.cells.length = 2 ∧ scene.rowKeys = [0, 1, 3, 4] ∧ GuardedReads Rat := by
  have hrectangular : ChartSpec.harvests.IsRectangular := by decide
  have hscene : ((ChartSpec.harvestSpec.run ChartSpec.harvests (fun _ ↦ none) .standard
      .heuristic).toOption.map fun scene ↦ (scene.cells.length, scene.rowKeys)) =
      some (2, [0, 1, 3, 4]) := by
    decide +kernel
  obtain ⟨scene, hscene, hshown⟩ := exists_ok_of_map_eq_some hscene
  obtain ⟨hlength, hkeys⟩ := Prod.mk.inj hshown
  obtain ⟨hrun, -, hguarded⟩ := run_staysInside ChartSpec.harvestSpec hrectangular (fun _ ↦ none)
    .standard .heuristic
  rw [hscene] at hrun
  exact ⟨hrectangular, scene, hrun, hlength, hkeys, hguarded⟩

/-- A row that is too short is read past its end. -/
example : (run ChartSpec.harvestSpec
    { ChartSpec.harvests with rows := [⟨0, [.string "north", .number 1]⟩] } (fun _ ↦ none) .standard
    .heuristic matches .error (.outOfBounds 2 2)) = true := by
  decide +kernel

end Indexed

end Charting
