import Charting.Guide.Generation
import Charting.Mark.Basic

/-!
# Scenes

A scene is a chart with everything in its place: cells with marks, axes, legends and headers.  The
coordinates of marks count from the upper left corner of their cell, all others from that of the
scene.
-/

namespace Charting

/-- The header of a column or a row of cells. -/
structure FacetHeader (R : Type) where
  /-- The text. -/
  text : String
  /-- Where it stands. -/
  bounds : Rect R
deriving BEq, Repr

/-- A cell of a scene. -/
structure SceneCell (R : Type) where
  /-- The value of the column, if there are columns. -/
  column : Option (Value R)
  /-- The value of the row, if there are rows. -/
  row : Option (Value R)
  /-- The rectangle of the cell. -/
  bounds : Rect R
  /-- The marks, in the order of drawing. -/
  marks : List (Mark R)
  /-- The axes that only this cell has. -/
  axes : List (Axis R)
  /-- The legends that only this cell has. -/
  legends : List (Legend R)
deriving BEq, Repr

/-- A chart with everything in its place. -/
structure Scene (R : Type) where
  /-- The whole scene. -/
  view : Rect R
  /-- The rectangle around all cells. -/
  plot : Rect R
  /-- The cells, row by row. -/
  cells : List (SceneCell R)
  /-- The axes that all cells share. -/
  axes : List (Axis R)
  /-- The legends that all cells share. -/
  legends : List (Legend R)
  /-- The headers, those of columns first. -/
  headers : List (FacetHeader R)
deriving BEq, Repr

namespace Scene

variable {R : Type}

/-- All marks. -/
def marks (s : Scene R) : List (Mark R) := s.cells.flatMap (·.marks)

/-- All axes, shared ones first. -/
def allAxes (s : Scene R) : List (Axis R) := s.axes ++ s.cells.flatMap (·.axes)

/-- All legends, shared ones first. -/
def allLegends (s : Scene R) : List (Legend R) := s.legends ++ s.cells.flatMap (·.legends)

/-- The shared axis of a channel. -/
def axis? (s : Scene R) (channel : Channel) : Option (Axis R) :=
  s.axes.find? (·.channel == channel)

/-- The shared legend that explains a channel. -/
def legend? (s : Scene R) (channel : Channel) : Option (Legend R) :=
  s.legends.find? (·.channels.contains channel)

end Scene

end Charting
