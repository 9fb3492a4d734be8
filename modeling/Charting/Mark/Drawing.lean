import Charting.Data.Grouping
import Charting.Encoding.Resolution
import Charting.Mark.Basic
import Charting.Mark.Order
import Charting.Mark.Place

/-!
# Drawing

`Drawing.marks` makes the marks of some rows, in the order of drawing.  Lines and areas go through
all rows of a series, and every other mark stands for one row.  Rows without a position are left
out.
-/

namespace Charting

/-- Everything that the marks of a plot depend on besides the rows. -/
structure Drawing (R : Type) where
  /-- The mark. -/
  mark : MarkSpec
  /-- The encodings. -/
  encodings : Encodings R
  /-- The size of the plot. -/
  extent : Size R
  /-- The defaults. -/
  config : Config R

variable {R : Type} [Scalar R]

namespace MarkKind

/-- The channels that a mark cannot be drawn without, in words; none if they are bound. -/
def missingChannels? (kind : MarkKind) (encodings : Encodings R) : Option String :=
  let x := encodings.binds .x
  let y := encodings.binds .y
  match kind with
  | line | area => if x && y then none else some "x and y"
  | bar | rect | rule => if x || y then none else some "x or y"
  | text => if encodings.binds .text then none else some "text"
  | circle | point | square | tick => none

/-- Fails if a channel that the mark cannot be drawn without is not bound. -/
def checkChannels (kind : MarkKind) (encodings : Encodings R) : Except (CompileError R) Unit :=
  match kind.missingChannels? encodings with
  | some channels => .error (.missingRequiredChannel kind channels)
  | none => .ok ()

end MarkKind

namespace Drawing

/-! ## Style -/

/-- The output of a channel for a row: a constant, or the image of the value of a field. -/
def output? {α : Type} (d : Drawing R) (channel : Channel) (ofConstant : Constant R → Option α)
    (ofImage : ScaleOutput R → Option α) (row : Row R) : Option α :=
  match d.encodings.on? channel with
  | none => none
  | some (.constant _ c) => ofConstant c
  | some (.field _) => (d.encodings.image? channel row).bind ofImage

/-- The colour of a row. -/
def color (d : Drawing R) (row : Row R) : Color R :=
  (d.output? .color Constant.color? ScaleOutput.color? row).getD d.config.defaultColor

/-- The opacity of a row.  Filled marks let others shine through unless opacity is bound. -/
def opacity (d : Drawing R) (row : Row R) : R :=
  match d.output? .opacity Constant.number? ScaleOutput.number? row with
  | some x => Scalar.clamp x 0.0 1.0
  | none =>
    if !d.encodings.binds .opacity && d.mark.isFilled then d.config.filledOpacity else 1.0

/-- What one encoding adds to the text that is shown on hovering. -/
def tooltipPart? (row : Row R) : Encoding R → Option String
  | .field f => some (f.binding.field ++ ": " ++ ((f.value? row).getD .null).text)
  | .constant _ c => c.text?

/-- The text that is shown on hovering over a row. -/
def tooltip? (d : Drawing R) (row : Row R) : Option String :=
  match d.encodings.tooltips.filterMap (tooltipPart? row) with
  | [] => none
  | parts => some (", ".intercalate parts)

/-- The shape of a row; only points can have any shape. -/
def shape (d : Drawing R) (row : Row R) : Symbol :=
  match d.mark.kind with
  | .square => .square
  | .point => (d.output? .shape Constant.shape? ScaleOutput.shape? row).getD .circle
  | _ => .circle

/-- The area of the symbol of a row. -/
def area (d : Drawing R) (row : Row R) : R :=
  Scalar.max
    ((d.output? .size Constant.number? ScaleOutput.number? row).getD d.config.defaultPointArea) 0.0

/-- The label of a row, if it has one. -/
def label? (d : Drawing R) (row : Row R) : Option String :=
  match d.encodings.on? .text with
  | none => none
  | some (.constant _ c) => c.text?
  | some (.field f) => ((f.value? row).filter (!·.isNull)).map Value.text

/-- The mark with a given figure that is painted like a row and stands for rows with the
given keys. -/
def paint (d : Drawing R) (row : Row R) (keys : List Nat) (figure : Figure R) : Mark R :=
  { rows := keys
    figure := figure
    color := d.color row
    filled := d.mark.isFilled
    opacity := d.opacity row
    tooltip := d.tooltip? row
    order := d.encodings.value? .order row }

/-! ## Marks of single rows -/

/-- A bar from the baseline to a value.  It stands upright if the vertical axis is continuous, or
neither axis is. -/
def bar (d : Drawing R) (x y : Place R) : Rect R :=
  let width := d.extent.width
  let height := d.extent.height
  let thickness := d.config.continuousBandSize
  if d.encodings.isContinuous .y || !d.encodings.isContinuous .x then
    let (x₀, x₁) := x.span width thickness
    let (y₀, y₁) := y.toBaseline height (d.encodings.baseline .y height)
    ⟨x₀, y₀, x₁, y₁⟩
  else
    let (x₀, x₁) := x.toBaseline width (d.encodings.baseline .x 0.0)
    let (y₀, y₁) := y.span height thickness
    ⟨x₀, y₀, x₁, y₁⟩

/-- The rectangle of both places. -/
def cell (d : Drawing R) (x y : Place R) : Rect R :=
  let (x₀, x₁) := x.span d.extent.width d.config.continuousBandSize
  let (y₀, y₁) := y.span d.extent.height d.config.continuousBandSize
  ⟨x₀, y₀, x₁, y₁⟩

/-- A line across the whole plot if only one axis is bound, and from the baseline to a point if both
are. -/
def rule (d : Drawing R) (x y : Place R) : Segment R :=
  let center : Point R := ⟨x.center d.extent.width, y.center d.extent.height⟩
  match x, y with
  | _, .free => ⟨⟨center.x, 0.0⟩, ⟨center.x, d.extent.height⟩⟩
  | .free, _ => ⟨⟨0.0, center.y⟩, ⟨d.extent.width, center.y⟩⟩
  | _, _ => ⟨⟨center.x, d.encodings.baseline .y d.extent.height⟩, center⟩

/-- The length of a short line across a place. -/
def tickLength (d : Drawing R) : Place R → R
  | .band _ width => 0.75 * width
  | _ => d.config.tickLength

/-- A short line across the continuous axis, upright if neither axis is continuous. -/
def tick (d : Drawing R) (x y : Place R) : Segment R :=
  let center : Point R := ⟨x.center d.extent.width, y.center d.extent.height⟩
  if d.encodings.isContinuous .x || !d.encodings.isContinuous .y then
    let h := 0.5 * d.tickLength y
    ⟨⟨center.x, center.y - h⟩, ⟨center.x, center.y + h⟩⟩
  else
    let h := 0.5 * d.tickLength x
    ⟨⟨center.x - h, center.y⟩, ⟨center.x + h, center.y⟩⟩

/-- The figure of a row at the given places, for marks that stand for one row. -/
def figure? (d : Drawing R) (row : Row R) (x y : Place R) : Option (Figure R) :=
  let center : Point R := ⟨x.center d.extent.width, y.center d.extent.height⟩
  match d.mark.kind with
  | .point | .circle | .square => some (.symbol (d.shape row) center (d.area row))
  | .bar => some (.rect (d.bar x y))
  | .rect => some (.rect (d.cell x y))
  | .rule => some (.rule (d.rule x y))
  | .tick => some (.tick (d.tick x y))
  | .text => (d.label? row).map fun s => .text center s d.config.textFontSize
  | .line | .area => none

/-- The mark of a row; none if the row has no position or no label. -/
def markOf? (d : Drawing R) (row : Row R) : Option (Mark R) := do
  let x ← d.encodings.place? .x row
  let y ← d.encodings.place? .y row
  let figure ← d.figure? row x y
  some (d.paint row [row.key] figure)

/-! ## Marks of series -/

/-- The channels whose discrete fields split rows into series. -/
def seriesChannels : List Channel := [.color, .shape, .size, .opacity]

/-- What tells the series of a row from others. -/
def seriesKey (d : Drawing R) (row : Row R) : List (Value R) :=
  (seriesChannels.filter fun c => (d.encodings.scale? c).any (!·.isContinuous)).map fun c =>
    ((d.encodings.value? c row).getD .null).key

/-- The point of a row in a series; none if the row has no position. -/
def vertex? (d : Drawing R) (row : Row R) : Option (Point R) := do
  let x ← d.encodings.place? .x row
  let y ← d.encodings.place? .y row
  some ⟨x.center d.extent.width, y.center d.extent.height⟩

/-- The figure through the points of a series. -/
def seriesFigure (d : Drawing R) (points : List (Point R)) : Figure R :=
  if d.mark.kind = .area then
    let base := d.encodings.baseline .y d.extent.height
    .area points (points.map fun p => ⟨p.x, base⟩)
  else .line points

/-- The mark of a series, painted like its first row; none if no row has a position. -/
def seriesMark? (d : Drawing R) (rows : List (Row R)) : Option (Mark R) :=
  let vertices := rows.filterMap fun row => (d.vertex? row).map fun p => (row.key, p)
  match rows, vertices with
  | first :: _, _ :: _ =>
    some (d.paint first (vertices.map (·.1)) (d.seriesFigure (vertices.map (·.2))))
  | _, _ => none

/-- The marks of rows in the order of drawing. -/
def marksInOrder (d : Drawing R) (rows : List (Row R)) : List (Mark R) :=
  if d.mark.kind.isSeries then
    (groupBy d.seriesKey rows).filterMap fun (_, rows) => d.seriesMark? rows
  else rows.filterMap d.markOf?

/-- The marks of some rows. -/
def marks (d : Drawing R) (rows : List (Row R)) : Except (CompileError R) (List (Mark R)) := do
  d.mark.kind.checkChannels d.encodings
  .ok (d.marksInOrder (d.encodings.drawOrder rows))

end Drawing

end Charting
