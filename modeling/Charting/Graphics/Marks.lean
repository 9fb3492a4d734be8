import Charting.Graphics.Stroke
import Charting.Mark.Basic

/-!
# Marks as vector graphics
-/

namespace Charting

namespace Graphics

variable {R : Type} [Scalar R]

/-- An element with the text that is shown on hovering, if there is one. -/
def hoverable (tag : String) (attributes : List (String × String)) (tooltip : Option String) :
    List Markup :=
  match tooltip with
  | some s => (Markup.element tag attributes [.element "title" [] [.chars s]]).onLine
  | none => (Markup.empty tag attributes).onLine

/-- How a mark is painted: its colour fills it, or goes along its edge. -/
def paint (m : Mark R) : List (String × String) :=
  let color := m.color.hex
  let (fill, stroke) := if m.filled then (color, "none") else ("none", color)
  [("fill", fill), ("stroke", stroke), number "opacity" m.opacity]

/-- A mark of a cell with its upper left corner at `origin`. -/
def mark (origin : Point R) (m : Mark R) : List Markup :=
  let color := m.color.hex
  let opacity := number "opacity" m.opacity
  match m.figure with
  | .symbol shape center area =>
    let path := (shape.path center area).translate origin
    hoverable "path" (("d", path.text) :: paint m) m.tooltip
  | .rect r => hoverable "rect" (rectAttributes (r.translate origin) ++ paint m) m.tooltip
  | .rule s | .tick s =>
    let s : Segment R := ⟨s.start.translate origin, s.stop.translate origin⟩
    hoverable "line" (lineAttributes s ++ [("stroke", color), opacity]) m.tooltip
  | .text anchor s fontSize => label (anchor.translate origin) fontSize "middle" s color
  | .line points =>
    let path := (Path.polyline points).translate origin
    hoverable "path"
      [("d", path.text), ("fill", "none"), ("stroke", color), ("stroke-width", "2"), opacity]
      m.tooltip
  | .area points baseline =>
    let path := (Path.polygon (points ++ baseline.reverse)).translate origin
    hoverable "path" [("d", path.text), ("fill", color), opacity] m.tooltip

end Graphics

end Charting
