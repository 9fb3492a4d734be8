import Charting.Numeric.Double
import Charting.Report.SampleReport

/-!
# The program

Writes the sample report to a file.
-/

open Charting

/-- The name of the file that the report is written to. -/
def reportFile : String := "vizlite_demo.html"

/-- Writes the sample report; a mistake in it is reported and ends the program with an error. -/
def main : IO UInt32 := do
  match Sample.report Float with
  | .ok text =>
    IO.FS.writeFile reportFile text
    return 0
  | .error message =>
    IO.eprintln message
    return 1
