import Charting.Proofs.Success
import Charting.Scene.Compile

/-!
# The steps of compilation

A chart is compiled in steps (`ChartSpec.compile_ok_iff`), of which the last ones cannot fail: every
cell that is plotted (`PreparedView.IsPlot`) becomes a cell of the scene with the same marks
(`SharedPlots.forall₂_place`).
-/

namespace Charting

variable {R : Type}

/-- A cell of a scene shows a plotted cell. -/
structure CellPlot.IsShownAs (plot : CellPlot R) (cell : SceneCell R) : Prop where
  /-- It has the value of the same column. -/
  column_eq : cell.column = plot.cell.column
  /-- It has the value of the same row of the grid. -/
  row_eq : cell.row = plot.cell.row
  /-- It has the same marks. -/
  marks_eq : cell.marks = plot.marks

variable [Scalar R]

/-! ## Placing keeps the marks -/

namespace SharedPlots

/-- Every cell gets its legends. -/
theorem length_placeCellLegends (own : List (Guides R)) (rects : List (Rect R)) :
    (placeCellLegends own rects).length = own.length := by
  induction own generalizing rects with
  | nil => rfl
  | cons g own ih => rw [placeCellLegends, List.length_cons, ih, List.length_cons]

/-- The cells of a scene are the plotted cells. -/
theorem forall₂_place {s : SharedPlots R} (h : s.own.length = s.plots.length) (layout : Layout R) :
    List.Forall₂ CellPlot.IsShownAs s.plots (s.place layout).cells := by
  have hlength : s.plots.length ≤
      (s.own.zip (placeCellLegends s.own (layout.legends.drop s.shared.legends.length))).length := by
    rw [List.length_zip, length_placeCellLegends, Nat.min_self]
    exact Nat.le_of_eq h.symm
  have hplots : (s.plots.zip (s.own.zip
      (placeCellLegends s.own (layout.legends.drop s.shared.legends.length)))).zipIdx.map (·.1.1) =
      s.plots := by
    rw [← Function.comp_def, ← List.map_map, List.zipIdx_map_fst, List.map_fst_zip hlength]
  rw [place]
  conv => arg 2; rw [← hplots]
  rw [List.forall₂_map_left_iff, List.forall₂_map_right_iff]
  exact List.forall₂_same.mpr fun _ _ ↦ ⟨rfl, rfl, rfl⟩

end SharedPlots

/-! ## Plotting -/

namespace PreparedView

/-- What is drawn in a cell, with scales that are made of the rows of the cell or of all rows. -/
inductive IsPlot (p : PreparedView R) (independent : Bool) (size : Size R) (config : Config R)
    (cell : FacetCell R) : CellPlot R → Prop
  /-- There is nothing to make scales of. -/
  | empty (hscales : independent = true) (hrows : cell.rows = []) :
    IsPlot p independent size config cell ⟨cell, [], none⟩
  /-- The rows of the cell are drawn. -/
  | drawn {encodings : Encodings R} {marks : List (Mark R)}
    (hrows : independent = true → cell.rows ≠ [])
    (hencodings : p.resolve (if independent then cell.rows else p.data.rows) size config =
      .ok encodings)
    (hmarks : p.marks encodings cell.rows size config = .ok marks) :
    IsPlot p independent size config cell ⟨cell, marks, some (encodings.guides config)⟩

/-- What is drawn in a cell is about this cell. -/
theorem IsPlot.cell_eq {p : PreparedView R} {independent : Bool} {size : Size R} {config : Config R}
    {cell : FacetCell R} {plot : CellPlot R} (h : p.IsPlot independent size config cell plot) :
    plot.cell = cell := by
  cases h with
  | empty => rfl
  | drawn => rfl

/-- Shared scales are made of all rows, even for a cell without rows. -/
theorem IsPlot.marks_ok {p : PreparedView R} {size : Size R} {config : Config R}
    {cell : FacetCell R} {plot : CellPlot R} (h : p.IsPlot false size config cell plot) :
    ∃ encodings, p.resolve p.data.rows size config = .ok encodings ∧
      p.marks encodings cell.rows size config = .ok plot.marks := by
  cases h with
  | empty hscales => cases hscales
  | drawn _ hencodings hmarks => exact ⟨_, hencodings, hmarks⟩

/-- All cells are plotted. -/
theorem isPlot_of_plots {p : PreparedView R} {cells : List (FacetCell R)} {independent : Bool}
    {size : Size R} {config : Config R} {plots : List (CellPlot R)}
    (h : p.plots cells independent size config = .ok plots) :
    List.Forall₂ (p.IsPlot independent size config) cells plots := by
  rw [PreparedView.plots] at h
  cases independent with
  | true =>
      rw [if_pos rfl] at h
      refine (mapM_ok_iff.mp h).imp fun cell plot hplot ↦ ?_
      rw [plotAlone] at hplot
      cases hempty : cell.rows.isEmpty with
      | true =>
          rw [hempty, if_pos rfl] at hplot
          rw [← Except.ok.inj hplot]
          exact .empty rfl (List.isEmpty_iff.mp hempty)
      | false =>
          rw [hempty, if_neg Bool.false_ne_true] at hplot
          obtain ⟨encodings, hencodings, hplot⟩ := bind_ok_iff.mp hplot
          obtain ⟨marks, hmarks, hplot⟩ := bind_ok_iff.mp hplot
          rw [← Except.ok.inj hplot]
          exact .drawn (fun _ ↦ List.isEmpty_eq_false_iff.mp hempty) hencodings hmarks
  | false =>
      rw [if_neg Bool.false_ne_true] at h
      obtain ⟨encodings, hencodings, h⟩ := bind_ok_iff.mp h
      refine (mapM_ok_iff.mp h).imp fun cell plot hplot ↦ ?_
      obtain ⟨marks, hmarks, hplot⟩ := bind_ok_iff.mp hplot
      rw [← Except.ok.inj hplot]
      exact .drawn (fun h ↦ absurd h Bool.false_ne_true) hencodings hmarks

/-- A single cell with all rows is plotted if there is anything to make scales of. -/
theorem plots_singleton {p : PreparedView R} {cell : FacetCell R} (hcell : cell.rows = p.data.rows)
    {independent : Bool} (hrows : independent = true → p.data.rows ≠ []) {size : Size R}
    {config : Config R} {encodings : Encodings R}
    (hencodings : p.resolve p.data.rows size config = .ok encodings) {marks : List (Mark R)}
    (hmarks : p.marks encodings p.data.rows size config = .ok marks) :
    p.plots [cell] independent size config =
      .ok [⟨cell, marks, some (encodings.guides config)⟩] := by
  rw [← hcell] at hmarks
  rw [PreparedView.plots]
  cases independent with
  | true =>
      have hempty : cell.rows.isEmpty = false := by
        rw [hcell]
        exact List.isEmpty_eq_false_iff.mpr (hrows rfl)
      rw [if_pos rfl]
      refine mapM_ok_iff.mpr (.cons ?_ .nil)
      rw [plotAlone, hempty, if_neg Bool.false_ne_true, hcell]
      rw [hcell] at hmarks
      exact bind_ok_iff.mpr ⟨_, hencodings, bind_ok_iff.mpr ⟨_, hmarks, rfl⟩⟩
  | false =>
      rw [if_neg Bool.false_ne_true]
      refine bind_ok_iff.mpr ⟨_, hencodings, mapM_ok_iff.mpr (.cons ?_ .nil)⟩
      exact bind_ok_iff.mpr ⟨_, hmarks, rfl⟩

end PreparedView

/-! ## Compilation -/

namespace ChartSpec

variable {spec : ChartSpec R} {data : Dataset R} {config : Config R} {measurer : TextMeasurer R}
  {scene : Scene R}

/-- A chart is compiled if no channel is bound twice, the data can be prepared and split into cells,
and the cells can be plotted. -/
theorem compile_ok_iff : spec.compile data config measurer = .ok scene ↔
    spec.view.checkChannels = .ok () ∧ ∃ p grid plots, spec.view.prepare data = .ok p ∧
      partition p.data p.data.rows (p.view.field? .column) (p.view.field? .row) = .ok grid ∧
      p.plots grid.cells spec.facet.independentScales
        (spec.cellSize grid.columns.size grid.rows.size config) config = .ok plots ∧
      (SharedPlots.ofPlots grid plots).place
        ((SharedPlots.ofPlots grid plots).layoutSpec
          (spec.cellSize grid.columns.size grid.rows.size config) config measurer).arrange =
        scene := by
  rw [compile, bind_ok_iff]
  constructor
  · rintro ⟨⟨⟩, hchannels, h⟩
    obtain ⟨p, hp, h⟩ := bind_ok_iff.mp h
    obtain ⟨grid, hgrid, h⟩ := bind_ok_iff.mp h
    obtain ⟨plots, hplots, h⟩ := bind_ok_iff.mp h
    exact ⟨hchannels, p, grid, plots, hp, hgrid, hplots, Except.ok.inj h⟩
  · rintro ⟨hchannels, p, grid, plots, hp, hgrid, hplots, rfl⟩
    exact ⟨(), hchannels, bind_ok_iff.mpr ⟨p, hp, bind_ok_iff.mpr ⟨grid, hgrid,
      bind_ok_iff.mpr ⟨plots, hplots, rfl⟩⟩⟩⟩

/-- If all cells can be plotted, then there is a scene of them. -/
theorem exists_compile_of_plots (hchannels : spec.view.checkChannels = .ok ()) {p : PreparedView R}
    (hp : spec.view.prepare data = .ok p) {grid : FacetGrid R}
    (hgrid : partition p.data p.data.rows (p.view.field? .column) (p.view.field? .row) = .ok grid)
    {plots : List (CellPlot R)}
    (hplots : p.plots grid.cells spec.facet.independentScales
      (spec.cellSize grid.columns.size grid.rows.size config) config = .ok plots) :
    ∃ scene, spec.compile data config measurer = .ok scene ∧
      List.Forall₂ CellPlot.IsShownAs plots scene.cells := by
  have hown : (SharedPlots.ofPlots grid plots).own.length = plots.length := List.length_map _
  exact ⟨_, compile_ok_iff.mpr ⟨hchannels, p, grid, plots, hp, hgrid, hplots, rfl⟩,
    SharedPlots.forall₂_place hown _⟩

/-- The cells of a compiled scene are the cells of the grid, each of them plotted. -/
theorem cells_of_compile (h : spec.compile data config measurer = .ok scene) :
    spec.view.checkChannels = .ok () ∧ ∃ p grid plots, spec.view.prepare data = .ok p ∧
      partition p.data p.data.rows (p.view.field? .column) (p.view.field? .row) = .ok grid ∧
      List.Forall₂ (p.IsPlot spec.facet.independentScales
        (spec.cellSize grid.columns.size grid.rows.size config) config) grid.cells plots ∧
      List.Forall₂ CellPlot.IsShownAs plots scene.cells := by
  obtain ⟨hchannels, p, grid, plots, hp, hgrid, hplots, rfl⟩ := compile_ok_iff.mp h
  have hown : (SharedPlots.ofPlots grid plots).own.length = plots.length := List.length_map _
  exact ⟨hchannels, p, grid, plots, hp, hgrid, PreparedView.isPlot_of_plots hplots,
    SharedPlots.forall₂_place hown _⟩

end ChartSpec

end Charting
