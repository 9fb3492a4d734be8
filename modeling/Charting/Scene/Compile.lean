import Charting.Mark.Drawing
import Charting.Scene.Aggregation
import Charting.Scene.Basic
import Charting.Scene.Facet
import Charting.Scene.Hoisting
import Charting.Scene.Layout

/-!
# Compilation of charts

`ChartSpec.filterData` applies the filters of a chart, and `ChartSpec.compile` makes a scene of what
is left: the data is aggregated and split into cells, every cell is drawn, guides that the cells
agree on are shared, and everything is laid out.
-/

namespace Charting

variable {R : Type} [Scalar R]

/-- The rows of a dataset that pass all filters of a chart. -/
def ChartSpec.filterData (spec : ChartSpec R) (data : Dataset R) (params : ParamLookup R) :
    Except (CompileError R) (Dataset R) :=
  spec.filters.foldlM (fun data p => (data.filter p params).mapError .data) data

/-- The part of a length that each of `n` cells with gaps between them has, at least one. -/
def share (total : R) (n : Nat) (spacing : R) : R :=
  let n : R := Scalar.ofNat (max n 1)
  Scalar.max ((total - spacing * (n - 1.0)) / n) 1.0

/-! ## Drawing -/

/-- The marks of a cell and the guides that explain them; a cell without rows can be
without guides. -/
structure CellPlot (R : Type) where
  /-- The cell. -/
  cell : FacetCell R
  /-- The marks. -/
  marks : List (Mark R)
  /-- The guides. -/
  guides : Option (Guides R)

namespace ChartSpec

/-- The gap between cells. -/
def spacing (config : Config R) : R := Scalar.max config.facetSpacing 0.0

/-- The size of a cell of a grid. -/
def cellSize (spec : ChartSpec R) (columns rows : Nat) (config : Config R) : Size R :=
  { width := spec.facet.cellWidth.getD
      (share (spec.view.width.getD config.width) columns (spacing config))
    height := spec.facet.cellHeight.getD
      (share (spec.view.height.getD config.height) rows (spacing config)) }

end ChartSpec

namespace PreparedView

/-- The marks that stand for rows of the data, as marks that stand for the rows behind them. -/
def trace (p : PreparedView R) (m : Mark R) : Mark R :=
  { m with rows := m.rows.flatMap p.sourceKeys }

/-- The marks of some rows under given encodings. -/
def marks (p : PreparedView R) (encodings : Encodings R) (rows : List (Row R)) (size : Size R)
    (config : Config R) : Except (CompileError R) (List (Mark R)) :=
  (Drawing.marks ⟨p.view.mark, encodings, size, config⟩ rows).map (·.map p.trace)

/-- The encodings of a view over some of its rows. -/
def resolve (p : PreparedView R) (rows : List (Row R)) (size : Size R) (config : Config R) :
    Except (CompileError R) (Encodings R) :=
  p.view.resolve p.data rows size config

/-- A cell with scales of its own; there is nothing to make them of if it has no rows. -/
def plotAlone (p : PreparedView R) (size : Size R) (config : Config R) (cell : FacetCell R) :
    Except (CompileError R) (CellPlot R) := do
  if cell.rows.isEmpty then .ok ⟨cell, [], none⟩
  else
    let encodings ← p.resolve cell.rows size config
    let marks ← p.marks encodings cell.rows size config
    .ok ⟨cell, marks, some (encodings.guides config)⟩

/-- A cell with scales that all cells share. -/
def plotTogether (p : PreparedView R) (encodings : Encodings R) (size : Size R) (config : Config R)
    (cell : FacetCell R) : Except (CompileError R) (CellPlot R) := do
  let marks ← p.marks encodings cell.rows size config
  .ok ⟨cell, marks, some (encodings.guides config)⟩

/-- All cells. -/
def plots (p : PreparedView R) (cells : List (FacetCell R)) (independent : Bool) (size : Size R)
    (config : Config R) : Except (CompileError R) (List (CellPlot R)) := do
  if independent then cells.mapM (p.plotAlone size config)
  else
    let encodings ← p.resolve p.data.rows size config
    cells.mapM (p.plotTogether encodings size config)

end PreparedView

/-! ## Measuring -/

/-- The gap around the text of a header. -/
def headerPadding : R := 4.0

/-- Cells that are drawn, with the guides that they share and those of their own. -/
structure SharedPlots (R : Type) where
  /-- The number of columns. -/
  columns : Nat
  /-- The number of rows. -/
  rows : Nat
  /-- The texts of the headers of columns. -/
  columnTexts : List String
  /-- The texts of the headers of rows. -/
  rowTexts : List String
  /-- The cells. -/
  plots : List (CellPlot R)
  /-- The guides that all cells share. -/
  shared : Guides R
  /-- The guides of each cell. -/
  own : List (Guides R)

namespace SharedPlots

/-- The guides of drawn cells, sorted out. -/
def ofPlots (grid : FacetGrid R) (plots : List (CellPlot R)) : SharedPlots R :=
  let present := plots.filterMap (·.guides)
  let axes := Guides.sharedAxes present
  let legends := Guides.sharedLegends present
  { columns := grid.columns.size
    rows := grid.rows.size
    columnTexts := grid.columns.values.map Value.text
    rowTexts := grid.rows.values.map Value.text
    plots := plots
    shared := ⟨axes, legends⟩
    own := plots.map fun p => (p.guides.getD .none).own axes legends }

/-- The room for the axes of a channel, if there are any. -/
def strip? (s : SharedPlots R) (channel : Channel) (config : Config R) (m : TextMeasurer R) :
    Option (AxisStrip R) :=
  let axes := (s.shared.axes ++ s.own.flatMap (·.axes)).filter (·.channel == channel)
  match axes.map (·.measure config.axis m) with
  | [] => none
  | first :: rest =>
    some ⟨rest.foldl Scalar.max first, !s.shared.axes.any (·.channel == channel)⟩

/-- The height of the headers of columns, zero if there are none. -/
def columnHeader (s : SharedPlots R) (config : Config R) (m : TextMeasurer R) : R :=
  if s.columnTexts.isEmpty then 0.0
  else m.maxHeight s.columnTexts config.headerFontSize + 2.0 * headerPadding

/-- The width of the headers of rows, zero if there are none. -/
def rowHeader (s : SharedPlots R) (config : Config R) (m : TextMeasurer R) : R :=
  if s.rowTexts.isEmpty then 0.0
  else m.maxWidth s.rowTexts config.headerFontSize + 2.0 * headerPadding

/-- All legends, shared ones first. -/
def legends (s : SharedPlots R) : List (Legend R) := s.shared.legends ++ s.own.flatMap (·.legends)

/-- The sizes of everything. -/
def layoutSpec (s : SharedPlots R) (size : Size R) (config : Config R) (m : TextMeasurer R) :
    LayoutSpec R :=
  { columns := s.columns
    rows := s.rows
    cellSize := size
    spacing := ChartSpec.spacing config
    outerPadding := config.outerPadding
    axisLeft := s.strip? .y config m
    axisBottom := s.strip? .x config m
    columnHeader := s.columnHeader config m
    rowHeader := s.rowHeader config m
    legends := s.legends.map fun l => ⟨l.measure config.legend m, l.orient, config.legendOffset⟩
    legendSpacing := config.legendSpacing }

/-! ## Placing -/

/-- Where a shared axis is drawn: beside the first cell of each row, or below the last cell of each
column. -/
def sharedPlacements (s : SharedPlots R) (layout : Layout R) (channel : Channel) : List (Rect R) :=
  if channel = .y then
    (List.range s.rows).filterMap fun r => (layout.axisLeft[r * s.columns]?).join
  else
    (List.range s.columns).filterMap fun c =>
      (layout.axisBottom[(s.rows - 1) * s.columns + c]?).join

/-- Where an axis of the `i`-th cell is drawn. -/
def ownPlacement (layout : Layout R) (i : Nat) (channel : Channel) : List (Rect R) :=
  (if channel = .y then layout.axisLeft[i]? else layout.axisBottom[i]?).join.toList

/-- Legends with their rectangles. -/
def placeLegends (legends : List (Legend R)) (rects : List (Rect R)) : List (Legend R) :=
  legends.zipIdx.map fun (l, i) => { l with bounds := rects[i]?.getD default }

/-- The legends of cells with their rectangles, which are listed cell after cell. -/
def placeCellLegends : List (Guides R) → List (Rect R) → List (List (Legend R))
  | [], _ => []
  | g :: rest, rects =>
    placeLegends g.legends rects :: placeCellLegends rest (rects.drop g.legends.length)

/-- Headers with their rectangles. -/
def placeHeaders (texts : List String) (rects : List (Rect R)) : List (FacetHeader R) :=
  (texts.zip rects).map fun (text, bounds) => ⟨text, bounds⟩

/-- The `i`-th cell with its axes in place. -/
def placeCell (layout : Layout R) (i : Nat) (plot : CellPlot R) (axes : List (Axis R))
    (legends : List (Legend R)) : SceneCell R :=
  { column := plot.cell.column
    row := plot.cell.row
    bounds := layout.cells[i]?.getD default
    marks := plot.marks
    axes := axes.map fun a => { a with placements := ownPlacement layout i a.channel }
    legends := legends }

/-- Everything in its place. -/
def place (s : SharedPlots R) (layout : Layout R) : Scene R :=
  let sharedCount := s.shared.legends.length
  let cellLegends := placeCellLegends s.own (layout.legends.drop sharedCount)
  let cells := s.plots.zip (s.own.zip cellLegends)
  { view := layout.view
    plot := layout.plot
    cells := cells.zipIdx.map fun ((plot, own, legends), i) =>
      placeCell layout i plot own.axes legends
    axes := s.shared.axes.map fun a =>
      { a with placements := s.sharedPlacements layout a.channel }
    legends := placeLegends s.shared.legends layout.legends
    headers := placeHeaders s.columnTexts layout.columnHeaders ++
      placeHeaders s.rowTexts layout.rowHeaders }

end SharedPlots

/-! ## Compilation -/

namespace ChartSpec

/-- The scene of a chart over rows that have passed its filters. -/
def compile (spec : ChartSpec R) (data : Dataset R) (config : Config R) (m : TextMeasurer R) :
    Except (CompileError R) (Scene R) := do
  spec.view.checkChannels
  let prepared ← spec.view.prepare data
  let view := prepared.view
  let grid ← partition prepared.data prepared.data.rows (view.field? .column) (view.field? .row)
  let size := spec.cellSize grid.columns.size grid.rows.size config
  let plots ← prepared.plots grid.cells spec.facet.independentScales size config
  let shared := SharedPlots.ofPlots grid plots
  .ok (shared.place (shared.layoutSpec size config m).arrange)

end ChartSpec

end Charting
