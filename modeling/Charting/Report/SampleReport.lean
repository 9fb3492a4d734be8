import Charting.Document.Reading
import Charting.Graphics.Scenes
import Charting.Interaction.LiveChart
import Charting.Report.Page
import Charting.Report.Samples

/-!
# The sample report

Every kind of chart once, with notes on what it shows.
-/

namespace Charting

namespace Sample

variable {R : Type} [Scalar R]

/-- The scene of a document, or the wording of what is wrong with it. -/
def scene (j : Json R) (config : Config R) : Except String (Scene R) := do
  let doc ← (ChartDocument.ofJson j).mapError DocumentError.message
  (doc.spec.initialScene doc.data config .heuristic).mapError CompileError.message

/-- A picture of a document. -/
def picture (config : Config R) (j : Json R) : Except String String := do
  let s ← scene j config
  .ok (s.picture config)

/-- A section with one note and some pictures. -/
def noted (title note : String) (config : Config R) (docs : List (Json R)) :
    Except String ReportSection := do
  let pictures ← docs.mapM (picture config)
  .ok ⟨title, [note], pictures⟩

/-- The defaults with the size of a view. -/
def sized (width height : R) : Config R := Config.standard.withViewSize width height

/-- Bars. -/
def barSection : Except String ReportSection :=
  noted "Bars" "Nominal x gets a band scale; quantitative y includes zero and is niced."
    (sized (300.0 : R) 200.0) [bars, lyingBars]

/-- Points. -/
def scatterSection : Except String ReportSection := do
  let config := sized (300.0 : R) 220.0
  let s ← scene scatter config
  let note := "Color and shape bind the same field, so they share one legend (" ++
    toString s.legends.length ++ " legends in total)."
  .ok ⟨"Scatter with redundant encodings", [note], [s.picture config]⟩

/-- Lines and areas. -/
def seriesSection : Except String ReportSection :=
  noted "Time series"
    "Rows split into one series per color; temporal ticks snap to calendar units."
    (sized (360.0 : R) 200.0) [priceLines, priceAreas]

/-- Summaries. -/
def summarySection : Except String ReportSection :=
  noted "Aggregation"
    "Aggregated channels group by every other bound field; titles read \"Mean of score\"."
    (sized (280.0 : R) 200.0) [meanScores, teamCounts]

/-- Heat maps. -/
def heatMapSection : Except String ReportSection :=
  noted "Heatmap" "A quantitative color field gets a sequential scale and a gradient legend."
    { sized (240.0 : R) 200.0 with legendOrient := .bottom }
    [loadGrid "rect" "color", loadGrid "text" "text"]

/-- Grids of charts. -/
def gridSection : Except String ReportSection := do
  let config : Config R := Config.standard.withFacetSpacing 12.0
  let together ← scene (yieldGrid false) config
  let alone ← picture config (yieldGrid true)
  let note := "A " ++ toString together.cells.length ++
    "-cell grid. Shared scales hoist one axis per grid row and column; independent scales give " ++
    "each cell its own."
  .ok ⟨"Facets", [note], [together.picture config, alone]⟩

/-- The order of drawing. -/
def orderSection : Except String ReportSection :=
  noted "Draw order" "Large circles draw first so small ones stay visible."
    (sized (300.0 : R) 140.0) [overlappingCircles]

/-- A live chart whose parameters are set one after another. -/
def paramSection : Except String ReportSection := do
  let config := sized (260.0 : R) 180.0
  let doc ← (ChartDocument.ofJson cities).mapError DocumentError.message
  let chart ← (LiveChart.start doc.spec doc.data config .heuristic).mapError CompileError.message
  let (west, _) ← (chart.set "region" (.string "west")).mapError CompileError.message
  let (large, _) ← (west.set "min_pop" (.number 120.0)).mapError CompileError.message
  let rejected := match large.set "min_pop" (.number 5000.0) with
    | .ok _ => []
    | .error e => ["Rejected out-of-range value: " ++ e.message]
  .ok
    { title := "Parameters"
      notes := rejected ++
        ["Each change recompiles the chart; the last good scene survives an error."]
      pictures := [chart, west, large].map fun c => c.scene.picture config }

/-- What is wrong with charts that cannot be drawn. -/
def mistakeSection (R : Type) [Scalar R] : ReportSection :=
  { title := "Errors"
    notes := (mistakes : List (Json R)).map fun j =>
      match scene j .standard with
      | .ok _ => "compiled"
      | .error message => message
    pictures := [] }

/-- The sections of the report. -/
def sections (R : Type) [Scalar R] : Except String (List ReportSection) := do
  let drawn ← [barSection (R := R), scatterSection (R := R), seriesSection (R := R),
    summarySection (R := R), heatMapSection (R := R), gridSection (R := R), orderSection (R := R),
    paramSection (R := R)].mapM id
  .ok (drawn ++ [mistakeSection R])

/-- The report. -/
def report (R : Type) [Scalar R] : Except String String := do
  let sections ← sections R
  .ok (reportText "vizlite charts demo" sections)

end Sample

end Charting
