import Charting.Numeric.Exact
import Charting.Proofs.Data.Selection
import Charting.Proofs.Mark.Drawing
import Charting.Proofs.Mark.Order
import Charting.Proofs.Scene.Facet
import Charting.Proofs.Scene.Unfaceted

/-!
# Cells as charts

Without summaries, a cell of a grid shows nothing that a chart without a grid would not show.  If
every cell has scales of its own, then it is the chart of its rows
(`ChartSpec.compile_cells_of_independentScales`).  If all cells share their scales, then it is the
part of the chart of all rows that stands for its rows, mark for mark and in the same order
(`ChartSpec.compile_cells_of_sharedScales`).  For this the total order of numbers has to be one, as
those of doubles and of rationals are: or else a part of the rows could be drawn in another order
than the whole.
-/

namespace Charting

variable {R : Type} [Scalar R]

/-! ## Rows with their marks -/

namespace Drawing

/-- The rows that have marks of their own, with these marks, in the order of drawing. -/
def rowMarks (d : Drawing R) (rows : List (Row R)) : List (Row R × Mark R) :=
  (d.encodings.drawOrder rows).filterMap fun row ↦ (d.markOf? row).map (row, ·)

/-- All marks are marks of rows if no lines or areas are drawn. -/
theorem marks_ok_iff {d : Drawing R} (hkind : d.mark.kind.isSeries = false) {rows : List (Row R)}
    {marks : List (Mark R)} : d.marks rows = .ok marks ↔
      d.mark.kind.checkChannels d.encodings = .ok () ∧ marks = (d.rowMarks rows).map (·.2) := by
  have hmarks : d.marksInOrder (d.encodings.drawOrder rows) = (d.rowMarks rows).map (·.2) := by
    rw [marksInOrder, hkind, if_neg Bool.false_ne_true, rowMarks, List.map_filterMap]
    refine List.filterMap_congr fun row _ ↦ ?_
    cases d.markOf? row <;> rfl
  rw [Drawing.marks, bind_ok_iff, hmarks]
  constructor
  · rintro ⟨⟨⟩, hchannels, h⟩
    exact ⟨hchannels, (Except.ok.inj h).symm⟩
  · rintro ⟨hchannels, rfl⟩
    exact ⟨(), hchannels, rfl⟩

/-- A mark stands for the row that it is the mark of. -/
theorem rows_of_mem_rowMarks {d : Drawing R} {rows : List (Row R)} {x : Row R × Mark R}
    (hx : x ∈ d.rowMarks rows) : x.2.rows = [x.1.key] := by
  obtain ⟨row, -, hx⟩ := List.mem_filterMap.mp hx
  obtain ⟨m, hm, rfl⟩ := Option.map_eq_some_iff.mp hx
  exact rows_of_markOf? hm

/-- No row has a mark that is not drawn, and none has two. -/
theorem rowMarks_subperm (d : Drawing R) (rows : List (Row R)) :
    ((d.rowMarks rows).map (·.1)).Subperm rows := by
  have hrows : (d.rowMarks rows).map (·.1) =
      (d.encodings.drawOrder rows).filter fun row ↦ (d.markOf? row).isSome := by
    rw [rowMarks, List.map_filterMap, ← List.filterMap_eq_filter]
    refine List.filterMap_congr fun row _ ↦ ?_
    cases hm : d.markOf? row <;> simp [Option.guard, hm]
  rw [hrows]
  exact List.filter_sublist.subperm.trans (d.encodings.drawOrder_perm rows).subperm

/-- Some of the rows have the marks that they have among all rows, in the same order. -/
theorem rowMarks_filter [Std.TransCmp (Scalar.totalOrder : R → R → Ordering)] (d : Drawing R)
    (p : Row R → Bool) (rows : List (Row R)) :
    d.rowMarks (rows.filter p) = (d.rowMarks rows).filter fun x ↦ p x.1 := by
  rw [rowMarks, rowMarks, Encodings.drawOrder_filter, List.filterMap_filter, List.filter_filterMap]
  refine List.filterMap_congr fun row _ ↦ ?_
  cases hrow : p row <;> cases d.markOf? row <;> simp [hrow, Option.filter]

/-- Where keys tell rows apart, the marks of some of the rows are those that stand for their
keys. -/
theorem map_filter_rowMarks {d : Drawing R} {rows : List (Row R)}
    (distinct : (rows.map Row.key).Nodup) (p : Row R → Bool) :
    ((d.rowMarks rows).filter fun x ↦ p x.1).map (·.2) =
      ((d.rowMarks rows).map (·.2)).filter fun m ↦
        m.rows.all (· ∈ (rows.filter p).map Row.key) := by
  rw [List.filter_map]
  refine congrArg (List.map _) (List.filter_congr fun x hx ↦ ?_)
  have hrow : x.1 ∈ rows := (d.rowMarks_subperm rows).subset (List.mem_map_of_mem hx)
  change p x.1 = x.2.rows.all (· ∈ (rows.filter p).map Row.key)
  rw [rows_of_mem_rowMarks hx, List.all_cons, List.all_nil, Bool.and_true, Bool.eq_iff_iff,
    decide_eq_true_iff, List.mem_map]
  constructor
  · intro hp
    exact ⟨x.1, List.mem_filter.mpr ⟨hrow, hp⟩, rfl⟩
  · rintro ⟨row, hmem, hkey⟩
    obtain ⟨hmem, hp⟩ := List.mem_filter.mp hmem
    exact List.inj_on_of_nodup_map distinct hmem hrow hkey ▸ hp

end Drawing

/-- With shared scales, the rows of a cell have the marks that they have among all rows. -/
theorem PreparedView.IsPlot.marks_eq_of_shared
    [Std.TransCmp (Scalar.totalOrder : R → R → Ordering)] {view : ViewSpec R} {data : Dataset R}
    {size : Size R} {config : Config R} {facet : FacetCell R} {plot : CellPlot R}
    (h : PreparedView.IsPlot ⟨view, data, none⟩ false size config facet plot)
    (hkind : view.mark.kind.isSeries = false) {encodings : Encodings R}
    (hencodings : view.resolve data data.rows size config = .ok encodings) {p : Row R → Bool}
    (hrows : facet.rows = data.rows.filter p) :
    plot.marks = ((Drawing.rowMarks ⟨view.mark, encodings, size, config⟩ data.rows).filter
      fun x ↦ p x.1).map (·.2) := by
  obtain ⟨encodings', hencodings', hmarks⟩ := h.marks_ok
  obtain rfl : encodings = encodings' := Except.ok.inj (hencodings.symm.trans hencodings')
  rw [PreparedView.marks_of_not_isAggregated, Drawing.marks_ok_iff hkind] at hmarks
  rw [← Drawing.rowMarks_filter, ← hrows]
  exact hmarks.2

/-! ## Rows of cells -/

/-- The positions of the rows of a cell. -/
def FacetGrid.positionsOf (grid : FacetGrid R) (data : Dataset R) (cell : FacetCell R) : List Nat :=
  data.indices.filter fun i ↦ data.rows[i]?.any (grid.holds cell)

/-- What is selected by the positions of the rows of a cell are its rows. -/
theorem rows_select_positionsOf {data : Dataset R} {column row : Option (FieldBinding R)}
    {grid : FacetGrid R} (h : partition data data.rows column row = .ok grid) {cell : FacetCell R}
    (hcell : cell ∈ grid.cells) : (data.select (grid.positionsOf data cell)).rows = cell.rows := by
  rw [rows_eq_of_partition h hcell]
  exact data.rows_select_filter _

/-- Bindings are resolved in a selection as they are in all data. -/
theorem ViewSpec.resolve_select (view : ViewSpec R) (data : Dataset R) (positions : List Nat)
    (rows : List (Row R)) (extent : Size R) (config : Config R) :
    view.resolve (data.select positions) rows extent config =
      view.resolve data rows extent config := rfl

/-! ## Charts of cells -/

namespace ChartSpec

variable {spec : ChartSpec R} {data : Dataset R} {config : Config R} {measurer : TextMeasurer R}
  {scene : Scene R}

/-- The cells of a scene without summaries show the rows of the cells of its grid. -/
theorem cells_of_compile_of_not_isAggregated (hview : spec.view.isAggregated = false)
    (h : spec.compile data config measurer = .ok scene) :
    ∃ grid, partition data data.rows (spec.view.field? .column) (spec.view.field? .row) = .ok grid ∧
      List.Forall₂ (fun facet cell ↦ facet ∈ grid.cells ∧ cell.column = facet.column ∧
        cell.row = facet.row ∧ ∃ plot : CellPlot R, cell.marks = plot.marks ∧
        PreparedView.IsPlot ⟨spec.view, data, none⟩ spec.facet.independentScales
          (spec.cellSize grid.columns.size grid.rows.size config) config facet plot)
        grid.cells scene.cells := by
  obtain ⟨-, p, grid, plots, hp, hgrid, hplots, hcells⟩ := cells_of_compile h
  obtain rfl : ⟨spec.view, data, none⟩ = p :=
    Except.ok.inj ((ViewSpec.prepare_of_not_isAggregated hview data).symm.trans hp)
  have hfacets := (List.forall₂_and_left (p := (· ∈ grid.cells)) _ _).mpr
    ⟨fun _ h ↦ h, forall₂_comp hplots hcells⟩
  refine ⟨grid, hgrid, hfacets.imp ?_⟩
  rintro facet cell ⟨hfacet, plot, hplot, hshown⟩
  obtain ⟨hcolumn, hrow, hmarks⟩ := hshown
  rw [hplot.cell_eq] at hcolumn hrow
  exact ⟨hfacet, hcolumn, hrow, plot, hmarks, hplot⟩

/-- If every cell has scales of its own, then it shows what a chart of its rows shows. -/
theorem compile_cells_of_independentScales (hscales : spec.facet.independentScales = true)
    (hview : spec.view.isAggregated = false) (h : spec.compile data config measurer = .ok scene) :
    ∃ grid, partition data data.rows (spec.view.field? .column) (spec.view.field? .row) = .ok grid ∧
      List.Forall₂ (fun facet cell ↦ cell.column = facet.column ∧ cell.row = facet.row ∧
        (data.select (grid.positionsOf data facet)).rows = facet.rows ∧
        (facet.rows = [] → cell.marks = []) ∧
        (facet.rows ≠ [] → ∃ single c,
          (spec.unfaceted (spec.cellSize grid.columns.size grid.rows.size config)).compile
            (data.select (grid.positionsOf data facet)) config measurer = .ok single ∧
          single.cells = [c] ∧ c.marks = cell.marks)) grid.cells scene.cells := by
  obtain ⟨grid, hgrid, hcells⟩ := cells_of_compile_of_not_isAggregated hview h
  refine ⟨grid, hgrid, hcells.imp ?_⟩
  rintro facet cell ⟨hfacet, hcolumn, hrow, plot, hcell, hplot⟩
  have hrows := rows_select_positionsOf hgrid hfacet
  refine ⟨hcolumn, hrow, hrows, ?_⟩
  cases hplot with
  | empty _ hempty => exact ⟨fun _ ↦ hcell, absurd hempty⟩
  | drawn hne hencodings hmarks =>
      refine ⟨fun hempty ↦ absurd hempty (hne hscales), fun _ ↦ ?_⟩
      rw [hscales, if_pos rfl] at hencodings
      rw [PreparedView.marks_of_not_isAggregated] at hmarks
      rw [← hrows] at hne hencodings hmarks
      obtain ⟨single, c, hsingle, hc, hmarks'⟩ := compile_unfaceted hview hne
        ((spec.view.resolve_select data _ _ _ config).trans hencodings) hmarks measurer
      exact ⟨single, c, hsingle, hc, hmarks'.trans hcell.symm⟩

/-! ### A chart of catches

Catches of two harbours, one of which has not been weighed. -/

/-- The catches of two harbours on two days. -/
def catches : Dataset Rat :=
  .ofRows [.untyped "harbour", .untyped "day", .untyped "weight"]
    [[.string "east", .number 1, .number 5], [.string "west", .number 1, .number 8],
      [.string "east", .number 2, .number 9], [.string "west", .number 2, .null]]

/-- The catches of each harbour in a cell of its own. -/
def catchSpec (kind : MarkKind) (independent : Bool) : ChartSpec Rat :=
  { view := ⟨⟨kind, none⟩,
      [.field (.plain .x "day"), .field (.plain .y "weight"), .field (.plain .column "harbour")],
      none, none⟩
    facet := ⟨independent, none, none⟩
    params := []
    filters := [] }

/-- Each harbour has one line, which is the line of a chart of its catches. -/
theorem compile_cells_of_independentScales_catches :
    (catchSpec .line true).facet.independentScales = true ∧
      (catchSpec .line true).view.isAggregated = false ∧
      ∃ scene, (catchSpec .line true).compile catches .standard .heuristic = .ok scene ∧
        scene.cells.map (fun cell ↦ cell.marks.map (·.rows)) = [[[0, 2]], [[1]]] ∧
        ∀ cell ∈ scene.cells, cell.marks ≠ [] → ∃ size positions single c,
          ((catchSpec .line true).unfaceted size).compile (catches.select positions) .standard
            .heuristic = .ok single ∧ single.cells = [c] ∧ c.marks = cell.marks := by
  have hrows : ((catchSpec .line true).compile catches .standard .heuristic).toOption.map
      (fun scene ↦ scene.cells.map fun cell ↦ cell.marks.map (·.rows)) =
      some [[[0, 2]], [[1]]] := by
    decide +kernel
  obtain ⟨scene, h, hrows⟩ := exists_ok_of_map_eq_some hrows
  obtain ⟨grid, -, hcells⟩ := compile_cells_of_independentScales rfl rfl h
  refine ⟨rfl, rfl, scene, h, hrows, fun cell hcell hmarks ↦ ?_⟩
  obtain ⟨facet, -, -, -, hempty, hsingle⟩ := exists_of_forall₂ hcells.flip cell hcell
  obtain ⟨single, c, hsingle, hc⟩ := hsingle fun hrows ↦ hmarks (hempty hrows)
  exact ⟨_, _, single, c, hsingle, hc⟩

/-- If all cells share their scales, then each of them shows the marks of its rows in a chart of all
rows, in the same order. -/
theorem compile_cells_of_sharedScales [Std.TransCmp (Scalar.totalOrder : R → R → Ordering)]
    (hscales : spec.facet.independentScales = false) (hview : spec.view.isAggregated = false)
    (hkind : spec.view.mark.kind.isSeries = false)
    (h : spec.compile data config measurer = .ok scene) :
    ∃ grid single c, ∃ rowMarks : List (Row R × Mark R),
      partition data data.rows (spec.view.field? .column) (spec.view.field? .row) = .ok grid ∧
      (spec.unfaceted (spec.cellSize grid.columns.size grid.rows.size config)).compile data config
        measurer = .ok single ∧ single.cells = [c] ∧ c.marks = rowMarks.map (·.2) ∧
      (rowMarks.map (·.1)).Subperm data.rows ∧ (∀ x ∈ rowMarks, x.2.rows = [x.1.key]) ∧
      List.Forall₂ (fun facet cell ↦ cell.column = facet.column ∧ cell.row = facet.row ∧
        facet.rows = data.rows.filter (grid.holds facet) ∧
        cell.marks = (rowMarks.filter fun x ↦ grid.holds facet x.1).map (·.2) ∧
        (data.keys.Nodup → cell.marks =
          c.marks.filter fun m ↦ m.rows.all (· ∈ facet.rows.map Row.key)))
        grid.cells scene.cells := by
  obtain ⟨grid, hgrid, hcells⟩ := cells_of_compile_of_not_isAggregated hview h
  -- Every grid has a cell, so that scales have been made.
  obtain ⟨-, -, -, -, _, -, hplot⟩ :=
    exists_of_forall₂ hcells _ (cellOf_mem_of_partition hgrid ⟨0, []⟩)
  rw [hscales] at hcells hplot
  obtain ⟨encodings, hencodings, hmarks⟩ := hplot.marks_ok
  rw [PreparedView.marks_of_not_isAggregated, Drawing.marks_ok_iff hkind] at hmarks
  obtain ⟨single, c, hsingle, hc, hcmarks⟩ := compile_unfaceted hview
    (fun h ↦ absurd (hscales.symm.trans h) Bool.false_ne_true) hencodings
    ((Drawing.marks_ok_iff hkind).mpr ⟨hmarks.1, rfl⟩) measurer
  refine ⟨grid, single, c, _, hgrid, hsingle, hc, hcmarks, Drawing.rowMarks_subperm _ data.rows,
    fun x ↦ Drawing.rows_of_mem_rowMarks, hcells.imp ?_⟩
  rintro facet cell ⟨hfacet, hcolumn, hrow, plot, hcell, hplot⟩
  have hrows := rows_eq_of_partition hgrid hfacet
  have hmarks' := hplot.marks_eq_of_shared hkind hencodings hrows
  refine ⟨hcolumn, hrow, hrows, hcell.trans hmarks', fun distinct ↦ ?_⟩
  rw [hcell, hmarks', hcmarks, hrows]
  exact Drawing.map_filter_rowMarks distinct _

/-- The points of each harbour are some of the points of a chart of all catches. -/
theorem compile_cells_of_sharedScales_catches :
    (catchSpec .point false).facet.independentScales = false ∧
      (catchSpec .point false).view.isAggregated = false ∧
      (catchSpec .point false).view.mark.kind.isSeries = false ∧
      ∃ scene, (catchSpec .point false).compile catches .standard .heuristic = .ok scene ∧
        scene.cells.map (fun cell ↦ cell.marks.map (·.rows)) = [[[0], [2]], [[1]]] ∧
        ∃ size single c, ((catchSpec .point false).unfaceted size).compile catches .standard
            .heuristic = .ok single ∧ single.cells = [c] ∧
          ∀ cell ∈ scene.cells, cell.marks.Sublist c.marks := by
  have hrows : ((catchSpec .point false).compile catches .standard .heuristic).toOption.map
      (fun scene ↦ scene.cells.map fun cell ↦ cell.marks.map (·.rows)) =
      some [[[0], [2]], [[1]]] := by
    decide +kernel
  obtain ⟨scene, h, hrows⟩ := exists_ok_of_map_eq_some hrows
  obtain ⟨grid, single, c, rowMarks, -, hsingle, hc, -, -, -, hcells⟩ :=
    compile_cells_of_sharedScales rfl rfl rfl h
  refine ⟨rfl, rfl, rfl, scene, h, hrows, _, single, c, hsingle, hc, fun cell hcell ↦ ?_⟩
  obtain ⟨facet, -, -, -, -, hkeys⟩ := exists_of_forall₂ hcells.flip cell hcell
  rw [hkeys (by decide)]
  exact List.filter_sublist

end ChartSpec

end Charting
