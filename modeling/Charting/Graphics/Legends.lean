import Charting.Graphics.Stroke
import Charting.Guide.Legend

/-!
# Legends as vector graphics

A legend is drawn within its bounds: the title, and then symbols with labels row by row, or a ramp
of colours with labels along it.
-/

namespace Charting

variable {R : Type} [Scalar R]

namespace Legend

/-- The upper edge of the entries.  A title takes room above them unless it is at the bottom. -/
def bodyTop (l : Legend R) (style : LegendStyle R) : R :=
  if l.title.isEmpty || l.titleOrient == .bottom then l.bounds.y0
  else l.bounds.y0 + (style.titleFontSize + style.titlePadding)

/-- Where the title is. -/
def titlePoint (l : Legend R) (style : LegendStyle R) : Point R :=
  let half := 0.5 * style.titleFontSize
  if l.titleOrient = .bottom then ⟨l.bounds.x0, l.bounds.y1 - half⟩
  else ⟨l.bounds.x0, l.bounds.y0 + half⟩

/-- The middle line of the `i`-th row. -/
def rowCenter (l : Legend R) (style : LegendStyle R) (i : Nat) : R :=
  let row := l.rowHeight style
  l.bodyTop style + Scalar.ofNat i * (row + style.rowGap) + 0.5 * row

/-- The length of a piece of the ramp, which has one piece less than entries. -/
def rampStep (l : Legend R) (style : LegendStyle R) : R :=
  style.gradientLength / Scalar.ofNat (max l.entries.length 2 - 1)

/-- The upper edge of the `i`-th piece of the ramp, where the label of the `i`-th entry is. -/
def rampAt (l : Legend R) (style : LegendStyle R) (i : Nat) : R :=
  l.bodyTop style + Scalar.ofNat i * l.rampStep style

/-- The `i`-th piece of the ramp. -/
def rampRect (l : Legend R) (style : LegendStyle R) (i : Nat) : Rect R :=
  ⟨l.bounds.x0, l.rampAt style i, l.bounds.x0 + style.gradientThickness, l.rampAt style (i + 1)⟩

end Legend

namespace Graphics

/-- The title of a legend, if it has one. -/
def legendTitle (l : Legend R) (style : LegendStyle R) : List Markup :=
  if l.title.isEmpty then []
  else label (l.titlePoint style) style.titleFontSize "start" l.title ink

/-- The symbol and the label of the `i`-th entry. -/
def legendRow (l : Legend R) (config : Config R) (i : Nat) (e : LegendEntry R) : List Markup :=
  let style := config.legend
  let extent := l.symbolExtent style
  let y := l.rowCenter style i
  let area := e.size.getD (style.swatchSize * style.swatchSize * 0.6)
  let path := (e.shape.getD .circle).path ⟨l.bounds.x0 + 0.5 * extent, y⟩ area
  (Markup.empty "path"
    [("d", path.text), ("fill", (e.color.getD config.defaultColor).hex),
      number "opacity" (e.opacity.getD 1.0)]).onLine ++
    label ⟨l.bounds.x0 + extent + style.labelGap, y⟩ style.fontSize "start" e.label ink

/-- The `i`-th piece of a ramp, in the colour of the `i`-th entry. -/
def rampPiece (l : Legend R) (config : Config R) (i : Nat) (e : LegendEntry R) : List Markup :=
  let color := (e.color.getD config.defaultColor).hex
  (Markup.empty "rect" (rectAttributes (l.rampRect config.legend i) ++ [("fill", color)])).onLine

/-- The label of the `i`-th entry of a ramp. -/
def rampLabel (l : Legend R) (style : LegendStyle R) (i : Nat) (e : LegendEntry R) : List Markup :=
  label ⟨l.bounds.x0 + style.gradientThickness + style.labelGap, l.rampAt style i⟩ style.fontSize
    "start" e.label ink

/-- The entries of a legend. -/
def legendBody (l : Legend R) (config : Config R) : List Markup :=
  let entries := l.entries.zipIdx
  match l.kind with
  | .symbol => entries.flatMap fun (e, i) => legendRow l config i e
  | .gradient =>
    entries.dropLast.flatMap (fun (e, i) => rampPiece l config i e) ++
      entries.flatMap fun (e, i) => rampLabel l config.legend i e

/-- A legend. -/
def legend (config : Config R) (l : Legend R) : List Markup :=
  legendTitle l config.legend ++ legendBody l config

end Graphics

end Charting
