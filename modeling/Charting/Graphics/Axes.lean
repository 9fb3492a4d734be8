import Charting.Graphics.Stroke
import Charting.Guide.Axis

/-!
# Axes as vector graphics

An axis is drawn in the strip beside a cell: a line along the cell, ticks and labels that point away
from it, and the title at the far edge.
-/

namespace Charting

namespace Graphics

variable {R : Type} [Scalar R]

/-- A strip in which an axis is drawn. -/
structure Strip (R : Type) where
  /-- Where the axis stands. -/
  orient : AxisOrient
  /-- The rectangle of the strip. -/
  bounds : Rect R

namespace Strip

/-- The edge of the strip at the cell. -/
def edge (s : Strip R) : R :=
  match s.orient with
  | .bottom => s.bounds.y0
  | .top => s.bounds.y1
  | .left => s.bounds.x1
  | .right => s.bounds.x0

/-- The direction away from the cell. -/
def away (s : Strip R) : R :=
  match s.orient with
  | .bottom | .right => 1.0
  | .top | .left => -1.0

/-- The point that is so far along the strip, with a given coordinate across it. -/
def point (s : Strip R) (along across : R) : Point R :=
  if s.orient.isHorizontal then ⟨s.bounds.x0 + along, across⟩ else ⟨across, s.bounds.y0 + along⟩

/-- The side of a label that is at its point. -/
def anchor (s : Strip R) : String :=
  match s.orient with
  | .left => "end"
  | .right => "start"
  | .top | .bottom => "middle"

/-- Where ticks end. -/
def tickEnd (s : Strip R) (style : AxisStyle R) : R := s.edge + s.away * style.tickSize

/-- Where the label of a tick is: its middle line below or above the tick, or its side at
the tick. -/
def labelPoint (s : Strip R) (style : AxisStyle R) (position : R) : Point R :=
  if s.orient.isHorizontal then
    s.point position
      (s.tickEnd style + s.away * (style.tickPadding + 0.5 * style.labelFontSize))
  else ⟨s.tickEnd style + s.away * style.tickPadding, s.bounds.y0 + position⟩

/-- Where the title is. -/
def titlePoint (s : Strip R) (style : AxisStyle R) (middle : R) : Point R :=
  let half := 0.5 * style.titleFontSize
  match s.orient with
  | .bottom => s.point middle (s.bounds.y1 - half)
  | .top => s.point middle (s.bounds.y0 + half)
  | .left => s.point middle (s.bounds.x0 + half)
  | .right => s.point middle (s.bounds.x1 - half)

/-- A tick and its label. -/
def tick (s : Strip R) (style : AxisStyle R) (t : AxisTick R) : List Markup :=
  line ⟨s.point t.position s.edge, s.point t.position (s.tickEnd style)⟩ ink ++
    label (s.labelPoint style t.position) style.labelFontSize s.anchor t.label ink

/-- The title, which is turned where the axis is upright. -/
def title (s : Strip R) (style : AxisStyle R) (middle : R) (text : String) : List Markup :=
  let p := s.titlePoint style middle
  let title := label p style.titleFontSize "middle" text ink
  if s.orient.isHorizontal then title
  else
    let turn := "rotate(-90 " ++ Scalar.text p.x ++ " " ++ Scalar.text p.y ++ ")"
    (Markup.block "g" [("transform", turn)] title).onLine

/-- An axis in a strip. -/
def axis (s : Strip R) (style : AxisStyle R) (a : Axis R) : List Markup :=
  let (start, stop) := a.range
  line ⟨s.point start s.edge, s.point stop s.edge⟩ ink ++ a.ticks.flatMap (s.tick style) ++
    if a.title.isEmpty then [] else s.title style (0.5 * (start + stop)) a.title

end Strip

/-- An axis in all its places. -/
def axis (style : AxisStyle R) (a : Axis R) : List Markup :=
  a.placements.flatMap fun bounds => (Strip.mk a.orient bounds).axis style a

end Graphics

end Charting
