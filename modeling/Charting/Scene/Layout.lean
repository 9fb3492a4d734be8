import Charting.Shape.Geometry
import Charting.Spec.Orient

/-!
# Layout of scenes

A scene is a grid of cells of equal size with strips for axes beside the cells, headers above and
left of the grid, and legends around it.  `LayoutSpec.arrange` finds the rectangles of all these
from the sizes that they ask for.  Negative sizes count as zero.
-/

namespace Charting

/-- The room for an axis beside the cells. -/
structure AxisStrip (R : Type) where
  /-- How thick the axis is. -/
  thickness : R
  /-- Whether every cell has the axis, and not only those at the edge of the grid. -/
  perCell : Bool
deriving Repr

/-- The room for a legend. -/
structure LegendBox (R : Type) where
  /-- The size of the legend. -/
  size : Size R
  /-- Where it stands. -/
  orient : LegendOrient
  /-- Its distance from the frame, or within a corner from the edges of the plot. -/
  offset : R
deriving Repr

/-- The sizes of everything in a scene. -/
structure LayoutSpec (R : Type) where
  /-- The number of columns; none counts as one. -/
  columns : Nat
  /-- The number of rows; none counts as one. -/
  rows : Nat
  /-- The size of a cell. -/
  cellSize : Size R
  /-- The gap between cells. -/
  spacing : R
  /-- The margin around the scene. -/
  outerPadding : R
  /-- The room for vertical axes, if there are any. -/
  axisLeft : Option (AxisStrip R)
  /-- The room for horizontal axes, if there are any. -/
  axisBottom : Option (AxisStrip R)
  /-- The height of the headers of columns. -/
  columnHeader : R
  /-- The width of the headers of rows. -/
  rowHeader : R
  /-- The legends, in the order in which they are stacked. -/
  legends : List (LegendBox R)
  /-- The gap between legends. -/
  legendSpacing : R
deriving Repr

/-- The rectangles of everything in a scene.  What belongs to cells is listed row by row. -/
structure Layout (R : Type) where
  /-- The whole scene. -/
  view : Rect R
  /-- All cells. -/
  plot : Rect R
  /-- All cells with their axes and headers. -/
  frame : Rect R
  /-- The cells. -/
  cells : List (Rect R)
  /-- The vertical axis of each cell that has one. -/
  axisLeft : List (Option (Rect R))
  /-- The horizontal axis of each cell that has one. -/
  axisBottom : List (Option (Rect R))
  /-- The headers of the columns. -/
  columnHeaders : List (Rect R)
  /-- The headers of the rows. -/
  rowHeaders : List (Rect R)
  /-- The legends. -/
  legends : List (Rect R)
deriving Repr

variable {R : Type} [Scalar R]

/-- A size, or zero in place of a negative one. -/
def nonneg (x : R) : R := Scalar.max x 0.0

/-! ## Legends -/

namespace LegendBox

/-- The width. -/
def width (b : LegendBox R) : R := nonneg b.size.width

/-- The height. -/
def height (b : LegendBox R) : R := nonneg b.size.height

/-- The distance from what the legend stands at. -/
def distance (b : LegendBox R) : R := nonneg b.offset

/-- Where the first legend of an orientation begins along the direction of stacking. -/
def start (plot : Rect R) (b : LegendBox R) : R :=
  match b.orient with
  | .left | .right => plot.y0
  | .top | .bottom => plot.x0
  | .topLeft | .topRight => plot.y0 + b.distance
  | .bottomLeft | .bottomRight => plot.y1 - b.distance

/-- The rectangle of a legend that begins at `at₀`. -/
def rect (frame plot : Rect R) (at₀ : R) (b : LegendBox R) : Rect R :=
  let w := b.width
  let h := b.height
  let d := b.distance
  match b.orient with
  | .right => ⟨frame.x1 + d, at₀, frame.x1 + d + w, at₀ + h⟩
  | .left => ⟨frame.x0 - d - w, at₀, frame.x0 - d, at₀ + h⟩
  | .top => ⟨at₀, frame.y0 - d - h, at₀ + w, frame.y0 - d⟩
  | .bottom => ⟨at₀, frame.y1 + d, at₀ + w, frame.y1 + d + h⟩
  | .topLeft => ⟨plot.x0 + d, at₀, plot.x0 + d + w, at₀ + h⟩
  | .topRight => ⟨plot.x1 - d - w, at₀, plot.x1 - d, at₀ + h⟩
  | .bottomLeft => ⟨plot.x0 + d, at₀ - h, plot.x0 + d + w, at₀⟩
  | .bottomRight => ⟨plot.x1 - d - w, at₀ - h, plot.x1 - d, at₀⟩

/-- Where the legend after one that begins at `at₀` begins. -/
def next (gap at₀ : R) (b : LegendBox R) : R :=
  match b.orient with
  | .left | .right | .topLeft | .topRight => at₀ + (b.height + gap)
  | .top | .bottom => at₀ + (b.width + gap)
  | .bottomLeft | .bottomRight => at₀ - (b.height + gap)

/-- The rectangles of legends, where `taken` tells how far the stack of an orientation has come. -/
def stack (frame plot : Rect R) (gap : R) :
    (taken : LegendOrient → Option R) → List (LegendBox R) → List (Rect R)
  | _, [] => []
  | taken, b :: rest =>
    let at₀ := (taken b.orient).getD (b.start plot)
    b.rect frame plot at₀ ::
      stack frame plot gap
        (fun o => if o = b.orient then some (b.next gap at₀) else taken o) rest

end LegendBox

/-! ## Cells -/

/-- The thickness of the strip of a cell, which may be at the edge of the grid. -/
def AxisStrip.room (strip : Option (AxisStrip R)) (atEdge : Bool) : R :=
  match strip with
  | some s => if s.perCell || atEdge then nonneg s.thickness else 0.0
  | none => 0.0

namespace LayoutSpec

/-- The number of columns. -/
def columnCount (spec : LayoutSpec R) : Nat := max spec.columns 1

/-- The number of rows. -/
def rowCount (spec : LayoutSpec R) : Nat := max spec.rows 1

/-- The width of a cell. -/
def cellWidth (spec : LayoutSpec R) : R := nonneg spec.cellSize.width

/-- The height of a cell. -/
def cellHeight (spec : LayoutSpec R) : R := nonneg spec.cellSize.height

/-- The room that the legends of an orientation take beside the frame. -/
def legendDepth (spec : LayoutSpec R) (orient : LegendOrient) (extent : Size R → R) : R :=
  ((spec.legends.filter (·.orient == orient)).map fun b =>
    nonneg (extent b.size) + b.distance).foldl Scalar.max 0.0

/-- The distance of the frame from the left edge. -/
def marginLeft (spec : LayoutSpec R) : R :=
  nonneg spec.outerPadding + spec.legendDepth .left Size.width

/-- The distance of the frame from the right edge. -/
def marginRight (spec : LayoutSpec R) : R :=
  nonneg spec.outerPadding + spec.legendDepth .right Size.width

/-- The distance of the frame from the upper edge. -/
def marginTop (spec : LayoutSpec R) : R :=
  nonneg spec.outerPadding + spec.legendDepth .top Size.height

/-- The distance of the frame from the lower edge. -/
def marginBottom (spec : LayoutSpec R) : R :=
  nonneg spec.outerPadding + spec.legendDepth .bottom Size.height

/-- The thickness of the vertical axis left of a column. -/
def leftStrip (spec : LayoutSpec R) (column : Nat) : R := AxisStrip.room spec.axisLeft (column == 0)

/-- The thickness of the horizontal axis below a row. -/
def bottomStrip (spec : LayoutSpec R) (row : Nat) : R :=
  AxisStrip.room spec.axisBottom (row + 1 == spec.rowCount)

/-- The left edge of the cells of a column. -/
def columnStart (spec : LayoutSpec R) : Nat → R
  | 0 => spec.marginLeft + nonneg spec.rowHeader + spec.leftStrip 0
  | c + 1 =>
    spec.columnStart c + spec.cellWidth + nonneg spec.spacing + spec.leftStrip (c + 1)

/-- The upper edge of the cells of a row. -/
def rowStart (spec : LayoutSpec R) : Nat → R
  | 0 => spec.marginTop + nonneg spec.columnHeader
  | r + 1 => spec.rowStart r + (spec.cellHeight + spec.bottomStrip r) + nonneg spec.spacing

/-- The rectangle of a cell. -/
def cellRect (spec : LayoutSpec R) (column row : Nat) : Rect R :=
  let x := spec.columnStart column
  let y := spec.rowStart row
  ⟨x, y, x + spec.cellWidth, y + spec.cellHeight⟩

/-- The rectangle of the vertical axis of a cell, if it has one. -/
def leftRect? (spec : LayoutSpec R) (column row : Nat) : Option (Rect R) :=
  let cell := spec.cellRect column row
  let strip := spec.leftStrip column
  if 0.0 < strip then some ⟨cell.x0 - strip, cell.y0, cell.x0, cell.y1⟩ else none

/-- The rectangle of the horizontal axis of a cell, if it has one. -/
def bottomRect? (spec : LayoutSpec R) (column row : Nat) : Option (Rect R) :=
  let cell := spec.cellRect column row
  let strip := spec.bottomStrip row
  if 0.0 < strip then some ⟨cell.x0, cell.y1, cell.x1, cell.y1 + strip⟩ else none

/-- Something for each cell, row by row. -/
def perCell {α : Type} (spec : LayoutSpec R) (f : (column row : Nat) → α) : List α :=
  (List.range spec.rowCount).flatMap fun r => (List.range spec.columnCount).map fun c => f c r

/-- The rectangle around all cells. -/
def plot (spec : LayoutSpec R) : Rect R :=
  ⟨spec.columnStart 0, spec.rowStart 0, spec.columnStart (spec.columnCount - 1) + spec.cellWidth,
    spec.rowStart (spec.rowCount - 1) + spec.cellHeight⟩

/-- The rectangle around all cells with their axes and headers. -/
def frame (spec : LayoutSpec R) : Rect R :=
  let lastRow := spec.rowCount - 1
  ⟨spec.marginLeft, spec.marginTop, spec.columnStart (spec.columnCount - 1) + spec.cellWidth,
    spec.rowStart lastRow + (spec.cellHeight + spec.bottomStrip lastRow)⟩

/-- The headers of the columns, if there is room for them. -/
def columnHeaderRects (spec : LayoutSpec R) : List (Rect R) :=
  let height := nonneg spec.columnHeader
  let plot := spec.plot
  if 0.0 < height then
    (List.range spec.columnCount).map fun c =>
      ⟨spec.columnStart c, plot.y0 - height, spec.columnStart c + spec.cellWidth, plot.y0⟩
  else []

/-- The headers of the rows, if there is room for them. -/
def rowHeaderRects (spec : LayoutSpec R) : List (Rect R) :=
  let width := nonneg spec.rowHeader
  if 0.0 < width then
    (List.range spec.rowCount).map fun r =>
      ⟨spec.marginLeft, spec.rowStart r, spec.marginLeft + width,
        spec.rowStart r + spec.cellHeight⟩
  else []

/-- The rectangles of everything. -/
def arrange (spec : LayoutSpec R) : Layout R :=
  let frame := spec.frame
  let plot := spec.plot
  { view := ⟨0.0, 0.0, frame.x1 + spec.marginRight, frame.y1 + spec.marginBottom⟩
    plot := plot
    frame := frame
    cells := spec.perCell spec.cellRect
    axisLeft := spec.perCell spec.leftRect?
    axisBottom := spec.perCell spec.bottomRect?
    columnHeaders := spec.columnHeaderRects
    rowHeaders := spec.rowHeaderRects
    legends := LegendBox.stack frame plot (nonneg spec.legendSpacing) (fun _ => none) spec.legends }

end LayoutSpec

namespace Layout

/-- The number of columns: the cells of the first row are as high up as the first cell. -/
def columnCount (l : Layout R) : Nat :=
  match l.cells with
  | [] => 1
  | first :: _ => max (l.cells.takeWhile fun c => c.y0 == first.y0).length 1

/-- The rectangle of the cell in a column and a row, where cells are counted in 64 bits. -/
def cell? (l : Layout R) (column row : Nat) : Option (Rect R) :=
  if column < l.columnCount then l.cells[wrapNat64 (row * l.columnCount + column)]? else none

end Layout

end Charting
