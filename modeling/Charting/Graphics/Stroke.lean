import Charting.Color.Basic
import Charting.Graphics.Markup
import Charting.Shape.Path

/-!
# Elements of vector graphics

The few kinds of elements that scenes are drawn with.
-/

namespace Charting

namespace Graphics

variable {R : Type} [Scalar R]

/-- The colour of texts and axes. -/
def ink : String := "#333333"

/-- The colour of the outlines of cells. -/
def gridColor : String := "#dddddd"

/-- An attribute whose value is a number. -/
def number (name : String) (x : R) : String × String := (name, Scalar.text x)

/-- The attributes of a rectangle: its corner and its size. -/
def rectAttributes (r : Rect R) : List (String × String) :=
  [number "x" r.x0, number "y" r.y0, number "width" r.width, number "height" r.height]

/-- The attributes of a line: its ends. -/
def lineAttributes (s : Segment R) : List (String × String) :=
  [number "x1" s.start.x, number "y1" s.start.y, number "x2" s.stop.x, number "y2" s.stop.y]

/-- A line in a colour. -/
def line (s : Segment R) (stroke : String) : List Markup :=
  (Markup.empty "line" (lineAttributes s ++ [("stroke", stroke)])).onLine

/-- The outline of a rectangle in a colour. -/
def outline (r : Rect R) (stroke : String) : List Markup :=
  (Markup.empty "path" [("d", (Path.rect r).text), ("fill", "none"), ("stroke", stroke)]).onLine

/-- A text with a point on its middle line, at which it starts, ends or has its centre. -/
def label (p : Point R) (fontSize : R) (anchor text : String) (fill : String) : List Markup :=
  (Markup.element "text"
    [number "x" p.x, number "y" p.y, number "font-size" fontSize, ("text-anchor", anchor),
      ("dominant-baseline", "middle"), ("fill", fill)]
    [.chars text]).onLine

end Graphics

end Charting
