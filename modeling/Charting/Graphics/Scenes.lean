import Charting.Graphics.Axes
import Charting.Graphics.Legends
import Charting.Graphics.Marks
import Charting.Scene.Basic

/-!
# Scenes as vector graphics

Cells are drawn first, then axes, legends and headers.
-/

namespace Charting

namespace Graphics

variable {R : Type} [Scalar R]

/-- A cell with its marks. -/
def cell (c : SceneCell R) : List Markup :=
  outline c.bounds gridColor ++ c.marks.flatMap (mark c.bounds.origin)

/-- The header of a column or a row. -/
def header (config : Config R) (h : FacetHeader R) : List Markup :=
  label h.bounds.center config.headerFontSize "middle" h.text ink

/-- The white ground that everything is drawn on. -/
def ground (view : Rect R) : List Markup :=
  (Markup.empty "rect" (rectAttributes view ++ [("fill", "white")])).onLine

/-- Everything that is drawn of a scene. -/
def content (s : Scene R) (config : Config R) : List Markup :=
  ground s.view ++ s.cells.flatMap cell ++ s.allAxes.flatMap (axis config.axis) ++
    s.allLegends.flatMap (legend config) ++ s.headers.flatMap (header config)

/-- A scene as an element that stands for a picture. -/
def picture (s : Scene R) (config : Config R) : Markup :=
  let view := s.view
  let box := " ".intercalate ([view.x0, view.y0, view.width, view.height].map Scalar.text)
  .block "svg"
    [("xmlns", "http://www.w3.org/2000/svg"), ("viewBox", box), number "width" view.width,
      number "height" view.height]
    (content s config)

end Graphics

/-- The text of a picture of a scene, which ends its last line. -/
def Scene.picture {R : Type} [Scalar R] (s : Scene R) (config : Config R) : String :=
  (Graphics.picture s config).text ++ "\n"

end Charting
