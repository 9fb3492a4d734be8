import Charting.Numeric.Exact
import Charting.Proofs.Mark.Drawing
import Charting.Proofs.Scene.Facet
import Charting.Proofs.Scene.Plots
import Charting.Proofs.Scene.Sources

/-!
# The rows of a scene

Between the data and the marks of a scene, rows are grouped, split into cells, put into the order of
drawing, joined into series, skipped where they have no place, and traced back to where they come
from.  None of these steps loses a row that can be drawn or names a row twice
(`ChartSpec.compile_rows`).
-/

namespace Charting

variable {R : Type}

/-- The keys of the rows that the marks of a scene stand for. -/
def Scene.rowKeys (scene : Scene R) : List Nat := scene.marks.flatMap (·.rows)

variable [Scalar R]

/-! ## Cells -/

namespace ChartSpec

/-- What the marks of a cell depend on besides its rows.  Scales are made of the rows of the cell or
of all rows. -/
def cellDrawing (spec : ChartSpec R) (p : PreparedView R) (grid : FacetGrid R) (config : Config R)
    (cell : FacetCell R) : Except (CompileError R) (Drawing R) :=
  let size := spec.cellSize grid.columns.size grid.rows.size config
  let rows := if spec.facet.independentScales then cell.rows else p.data.rows
  (p.resolve rows size config).map fun encodings ↦ ⟨p.view.mark, encodings, size, config⟩

/-- Whether a row is shown in a cell. -/
def showsIn (spec : ChartSpec R) (p : PreparedView R) (grid : FacetGrid R) (config : Config R)
    (cell : FacetCell R) (row : Row R) : Bool :=
  passes ((spec.cellDrawing p grid config cell).map (·.shows row))

end ChartSpec

/-- The marks of a plot, traced back, stand for the rows behind those that are shown. -/
theorem PreparedView.rows_marks_perm {p : PreparedView R} {encodings : Encodings R}
    {rows : List (Row R)} {size : Size R} {config : Config R} {marks : List (Mark R)}
    (h : p.marks encodings rows size config = .ok marks) :
    (marks.flatMap (·.rows)).Perm
      (p.keysBehind (rows.filter (Drawing.mk p.view.mark encodings size config).shows)) := by
  obtain ⟨drawn, hdrawn, rfl⟩ := map_ok_iff.mp h
  have htrace : (drawn.map p.trace).flatMap (·.rows) =
      (drawn.flatMap (·.rows)).flatMap p.sourceKeys := by
    rw [List.flatMap_map, List.flatMap_assoc]
    rfl
  have hperm := (Drawing.rows_marks_perm hdrawn).flatMap_right p.sourceKeys
  rw [List.flatMap_map] at hperm
  rw [htrace]
  exact hperm

namespace ChartSpec

variable {spec : ChartSpec R} {data : Dataset R} {config : Config R} {p : PreparedView R}
  {grid : FacetGrid R} {plots : List (CellPlot R)}

/-- What is drawn in a cell stands for the rows behind those that are shown there.  A cell with rows
has scales. -/
structure IsPlotted (spec : ChartSpec R) (p : PreparedView R) (grid : FacetGrid R)
    (config : Config R) (cell : FacetCell R) (plot : CellPlot R) : Prop where
  /-- The marks stand for what is shown. -/
  rows_perm : (plot.marks.flatMap (·.rows)).Perm
    (p.keysBehind (cell.rows.filter (spec.showsIn p grid config cell)))
  /-- There are scales if there are rows. -/
  exists_drawing : cell.rows ≠ [] → ∃ d, spec.cellDrawing p grid config cell = .ok d

/-- A cell is plotted by its marks under its scales. -/
theorem isPlotted_of_marks {cell : FacetCell R} {size : Size R}
    (hsize : size = spec.cellSize grid.columns.size grid.rows.size config)
    {encodings : Encodings R}
    (hencodings : p.resolve (if spec.facet.independentScales then cell.rows else p.data.rows) size
      config = .ok encodings) {marks : List (Mark R)}
    (hmarks : p.marks encodings cell.rows size config = .ok marks) (guides : Option (Guides R)) :
    spec.IsPlotted p grid config cell ⟨cell, marks, guides⟩ := by
  have hdrawing : spec.cellDrawing p grid config cell =
      .ok ⟨p.view.mark, encodings, size, config⟩ := by
    rw [hsize] at hencodings ⊢
    exact map_ok_iff.mpr ⟨encodings, hencodings, rfl⟩
  refine ⟨?_, fun _ ↦ ⟨_, hdrawing⟩⟩
  have hshows : spec.showsIn p grid config cell =
      (Drawing.mk p.view.mark encodings size config).shows := by
    funext row
    rw [showsIn, hdrawing]
    rfl
  rw [hshows]
  exact PreparedView.rows_marks_perm hmarks

/-- Whatever is plotted stands for the rows behind those that are shown. -/
theorem isPlotted_of_isPlot {cell : FacetCell R} {plot : CellPlot R}
    (h : p.IsPlot spec.facet.independentScales
      (spec.cellSize grid.columns.size grid.rows.size config) config cell plot) :
    spec.IsPlotted p grid config cell plot := by
  cases h with
  | empty _ hrows =>
      refine ⟨?_, fun hne ↦ absurd hrows hne⟩
      rw [hrows]
      exact .refl []
  | drawn _ hencodings hmarks => exact isPlotted_of_marks rfl hencodings hmarks _

/-! ## Compilation -/

/-- A compiled scene has the marks of its plotted cells. -/
theorem compile_ok {measurer : TextMeasurer R} {scene : Scene R}
    (h : spec.compile data config measurer = .ok scene) :
    ∃ p grid plots, spec.view.prepare data = .ok p ∧
      partition p.data p.data.rows (p.view.field? .column) (p.view.field? .row) = .ok grid ∧
      List.Forall₂ (spec.IsPlotted p grid config) grid.cells plots ∧
      scene.marks = plots.flatMap (·.marks) := by
  obtain ⟨-, p, grid, plots, hp, hgrid, hplots, hcells⟩ := cells_of_compile h
  refine ⟨p, grid, plots, hp, hgrid, hplots.imp fun _ _ ↦ isPlotted_of_isPlot, ?_⟩
  rw [Scene.marks]
  generalize scene.cells = cells at hcells
  clear hplots
  induction hcells with
  | nil => rfl
  | cons hcell _ ih => rw [List.flatMap_cons, List.flatMap_cons, hcell.marks_eq, ih]

/-- The scene names the rows behind those that are shown in some cell. -/
theorem rows_plots_perm {cells : List (FacetCell R)}
    (h : List.Forall₂ (spec.IsPlotted p grid config) cells plots) :
    ((plots.flatMap (·.marks)).flatMap (·.rows)).Perm
      (cells.flatMap fun cell ↦
        p.keysBehind (cell.rows.filter (spec.showsIn p grid config cell))) := by
  induction h with
  | nil => exact .refl []
  | cons hplot _ ih =>
      rw [List.flatMap_cons, List.flatMap_append, List.flatMap_cons]
      exact hplot.rows_perm.append ih

/-- Every cell with rows has scales. -/
theorem exists_cellDrawing {cells : List (FacetCell R)}
    (h : List.Forall₂ (spec.IsPlotted p grid config) cells plots) {cell : FacetCell R}
    (hcell : cell ∈ cells) (hrows : cell.rows ≠ []) :
    ∃ d, spec.cellDrawing p grid config cell = .ok d := by
  obtain ⟨plot, hplot⟩ := exists_of_forall₂ h cell hcell
  exact hplot.exists_drawing hrows

/-- The mark that is drawn is the mark of the view. -/
theorem mark_cellDrawing {cell : FacetCell R} {d : Drawing R} (hp : spec.view.prepare data = .ok p)
    (hd : spec.cellDrawing p grid config cell = .ok d) : d.mark = spec.view.mark := by
  obtain ⟨encodings, -, rfl⟩ := map_ok_iff.mp hd
  rcases ViewSpec.prepare_ok hp with ⟨-, rfl⟩ | ⟨-, hview, -, -⟩
  · rfl
  · change p.view.mark = spec.view.mark
    rw [hview]
    rfl

section Shown

variable (hp : spec.view.prepare data = .ok p)
  (hgrid : partition p.data p.data.rows (p.view.field? .column) (p.view.field? .row) = .ok grid)

include hp hgrid

/-- The cells together stand for all rows, and for each of them once. -/
theorem keysBehind_cells_perm :
    (grid.cells.flatMap fun cell ↦ p.keysBehind cell.rows).Perm data.keys := by
  have hcells : (grid.cells.flatMap fun cell ↦ p.keysBehind cell.rows) =
      p.keysBehind (grid.cells.flatMap (·.rows)) := by
    rw [PreparedView.keysBehind, List.flatMap_assoc]
    rfl
  rw [hcells]
  exact ((partition_perm hgrid).flatMap_right _).trans (ViewSpec.keysBehind_perm hp)

/-- The rows that are shown are drawn rows that are shown in their cells. -/
theorem mem_keysBehind_showsIn_iff (distinct : data.keys.Nodup) {row drawn : Row R}
    (hrow : row ∈ data.rows) (hdrawn : spec.view.IsDrawnAs data p row drawn) :
    (row.key ∈ grid.cells.flatMap fun cell ↦
      p.keysBehind (cell.rows.filter (spec.showsIn p grid config cell))) ↔
      spec.showsIn p grid config (grid.cellOf p.data.rows drawn) drawn = true := by
  obtain ⟨hmem, hkey⟩ := (ViewSpec.isDrawnAs_iff hp distinct hrow).mp hdrawn
  constructor
  · intro hshown
    obtain ⟨cell, hcell, hshown⟩ := List.mem_flatMap.mp hshown
    obtain ⟨drawn', hdrawn', hkey'⟩ := List.mem_flatMap.mp hshown
    obtain ⟨hincell, hshows⟩ := List.mem_filter.mp hdrawn'
    obtain ⟨hmem', rfl⟩ := (mem_rows_iff_of_partition hgrid hcell).mp hincell
    obtain rfl : drawn' = drawn := ViewSpec.IsDrawnAs.unique hp distinct hrow
      ((ViewSpec.isDrawnAs_iff hp distinct hrow).mpr ⟨hmem', hkey'⟩) hdrawn
    exact hshows
  · intro hshows
    have hcell := cellOf_mem_of_partition hgrid drawn
    have hincell := (mem_rows_iff_of_partition hgrid hcell).mpr ⟨hmem, rfl⟩
    refine List.mem_flatMap.mpr ⟨_, hcell, List.mem_flatMap.mpr ⟨drawn, ?_, hkey⟩⟩
    exact List.mem_filter.mpr ⟨hincell, hshows⟩

end Shown

/-- The marks of a scene name every row of the data at most once and no other rows, and they name a
row exactly if it is drawn as a row that has a place on both axes of its cell, and a label where
labels are drawn. -/
theorem compile_rows {spec : ChartSpec R} {data : Dataset R} {config : Config R}
    {measurer : TextMeasurer R} {scene : Scene R} (distinct : data.keys.Nodup)
    (h : spec.compile data config measurer = .ok scene) :
    scene.rowKeys.Nodup ∧ (∀ key ∈ scene.rowKeys, key ∈ data.keys) ∧
      ∃ p grid, spec.view.prepare data = .ok p ∧
        partition p.data p.data.rows (p.view.field? .column) (p.view.field? .row) = .ok grid ∧
        ∀ row ∈ data.rows, ∃ drawn cell d,
          (∀ drawn', spec.view.IsDrawnAs data p row drawn' ↔ drawn' = drawn) ∧
          (∀ cell' ∈ grid.cells, drawn ∈ cell'.rows ↔ cell' = cell) ∧ cell ∈ grid.cells ∧
          spec.cellDrawing p grid config cell = .ok d ∧
          (row.key ∈ scene.rowKeys ↔ (d.encodings.place? .x drawn).isSome ∧
            (d.encodings.place? .y drawn).isSome ∧
            (spec.view.mark.kind = .text → (d.label? drawn).isSome)) := by
  obtain ⟨p, grid, plots, hp, hgrid, hplots, hmarks⟩ := compile_ok h
  have hperm := rows_plots_perm hplots
  rw [← hmarks] at hperm
  have hall := keysBehind_cells_perm hp hgrid
  have hsub : (grid.cells.flatMap fun cell ↦
      p.keysBehind (cell.rows.filter (spec.showsIn p grid config cell))).Sublist
      (grid.cells.flatMap fun cell ↦ p.keysBehind cell.rows) :=
    List.Sublist.flatMap_right _ fun cell _ ↦ List.filter_sublist.flatMap _
  refine ⟨?_, ?_, p, grid, hp, hgrid, fun row hrow ↦ ?_⟩
  · exact hperm.nodup_iff.mpr ((hall.nodup_iff.mpr distinct).sublist hsub)
  · intro key hkey
    exact hall.mem_iff.mp (hsub.subset (hperm.mem_iff.mp hkey))
  · obtain ⟨drawn, hdrawn⟩ := ViewSpec.exists_isDrawnAs hp distinct hrow
    have hmem := ((ViewSpec.isDrawnAs_iff hp distinct hrow).mp hdrawn).1
    have hcell := cellOf_mem_of_partition hgrid drawn
    have hincell := (mem_rows_iff_of_partition hgrid hcell).mpr ⟨hmem, rfl⟩
    obtain ⟨d, hd⟩ := exists_cellDrawing hplots hcell (List.ne_nil_of_mem hincell)
    refine ⟨drawn, _, d, fun drawn' ↦ ?_, fun cell' hcell' ↦ ?_, hcell, hd, ?_⟩
    · constructor
      · intro hdrawn'
        exact hdrawn'.unique hp distinct hrow hdrawn
      · rintro rfl
        exact hdrawn
    · rw [mem_rows_iff_of_partition hgrid hcell', and_iff_right hmem]
    · have hshows := hperm.mem_iff.trans (mem_keysBehind_showsIn_iff hp hgrid distinct hrow hdrawn)
      rw [showsIn, hd] at hshows
      rw [← mark_cellDrawing hp hd, ← Drawing.shows_iff]
      exact hshows

/-! ### A chart of harvests

Means that are drawn as one line for each field.  One of them is missing. -/

/-- The harvests of two fields in two years; one of them is not known. -/
def harvests : Dataset Rat :=
  .ofRows [.untyped "field", .untyped "year", .untyped "crop"]
    [[.string "north", .number 1, .number 10], [.string "north", .number 1, .number 30],
      [.string "north", .number 2, .null], [.string "south", .number 1, .number 5],
      [.string "south", .number 2, .number 7]]

/-- The mean harvest of each year, in a cell with scales of its own for each field. -/
def harvestSpec : ChartSpec Rat :=
  { view := ⟨⟨.line, none⟩,
      [.field (.plain .x "year"),
        .field { FieldBinding.plain .y "crop" with aggregate := some .mean },
        .field (.plain .column "field")], none, none⟩
    facet := ⟨true, none, none⟩
    params := []
    filters := [] }

/-- All harvests but the unknown one are behind the lines, each of them once. -/
theorem compile_rows_harvests : harvests.keys.Nodup ∧
    ∃ scene, harvestSpec.compile harvests .standard .heuristic = .ok scene ∧
      scene.rowKeys = [0, 1, 3, 4] ∧ scene.rowKeys.Nodup ∧
      ∀ key ∈ scene.rowKeys, key ∈ harvests.keys := by
  have distinct : harvests.keys.Nodup := by decide
  have hkeys : (harvestSpec.compile harvests .standard .heuristic).toOption.map Scene.rowKeys =
      some [0, 1, 3, 4] := by
    decide +kernel
  obtain ⟨scene, h, hkeys⟩ := exists_ok_of_map_eq_some hkeys
  obtain ⟨hnodup, hsubset, -⟩ := compile_rows distinct h
  exact ⟨distinct, scene, h, hkeys, hnodup, hsubset⟩

end ChartSpec

end Charting
