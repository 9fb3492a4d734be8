/-!
# Reports

A report is a page of sections, each with a title, some notes and some pictures.  All of them are
markup already and are put into the page as they are.
-/

namespace Charting

/-- A section of a report. -/
structure ReportSection where
  /-- The title. -/
  title : String
  /-- The notes, in order. -/
  notes : List String
  /-- The pictures, in order. -/
  pictures : List String

namespace ReportSection

/-- The section as a part of a page. -/
def text (s : ReportSection) : String :=
  "<section><h2>" ++ s.title ++ "</h2>\n" ++
    String.join (s.notes.map fun note => "<p>" ++ note ++ "</p>\n") ++
    "<div class=\"charts\">\n" ++ String.join s.pictures ++ "</div></section>\n"

end ReportSection

/-- The style of a page. -/
def reportStyle : String :=
  "<style>body\x7bfont-family:sans-serif;margin:2em\x7dsection\x7bmargin-bottom:3em\x7d" ++
    ".charts\x7bdisplay:flex;flex-wrap:wrap;gap:2em;align-items:flex-start\x7d</style>\n"

/-- A page with a title and sections. -/
def reportText (title : String) (sections : List ReportSection) : String :=
  "<!DOCTYPE html>\n<html><head><meta charset=\"utf-8\"><title>" ++ title ++ "</title>\n" ++
    reportStyle ++ "</head><body><h1>" ++ title ++ "</h1>\n" ++
    String.join (sections.map ReportSection.text) ++ "</body></html>\n"

end Charting
