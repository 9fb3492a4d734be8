import Charting.Color.Basic
import Charting.Data.Value
import Charting.Shape.Symbol

/-!
# Drawn marks

What a mark comes to when everything is resolved: a figure in the plane, the way it is painted, and
the rows that it stands for.  Coordinates count from the upper left corner of the plot.
-/

namespace Charting

/-- A figure in the plane. -/
inductive Figure (R : Type) where
  /-- A symbol with the given centre and area. -/
  | symbol (shape : Symbol) (center : Point R) (area : R)
  /-- A rectangle. -/
  | rect (r : Rect R)
  /-- A line across the plot. -/
  | rule (s : Segment R)
  /-- A short line. -/
  | tick (s : Segment R)
  /-- A label with the given centre. -/
  | text (anchor : Point R) (text : String) (fontSize : R)
  /-- A line from point to point. -/
  | line (points : List (Point R))
  /-- The region between a line and its baseline. -/
  | area (points baseline : List (Point R))
deriving BEq, DecidableEq, Repr

/-- A figure that is ready to be painted. -/
structure Mark (R : Type) where
  /-- The keys of the rows that it stands for. -/
  rows : List Nat
  /-- The figure. -/
  figure : Figure R
  /-- The colour of the fill, or of the stroke if it is not filled. -/
  color : Color R
  /-- Whether the figure is filled. -/
  filled : Bool
  /-- The opacity, between zero and one. -/
  opacity : R
  /-- The text that is shown on hovering. -/
  tooltip : Option String
  /-- The value that the order of drawing follows, if it follows one. -/
  order : Option (Value R)
deriving BEq, DecidableEq, Repr

end Charting
