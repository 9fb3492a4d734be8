import Charting.Json.Basic

/-!
# Sample documents

The charts of the sample report, as documents.
-/

namespace Charting

namespace Sample

variable {R : Type} [Scalar R]

/-- An object. -/
def obj (members : List (String × Json R)) : Json R := .object members

/-- A text. -/
def str (s : String) : Json R := .string s

/-- An integer. -/
def int (n : Int) : Json R := .integer n

/-- An array. -/
def arr (items : List (Json R)) : Json R := .array items

/-- The data of a chart. -/
def data (records : List (Json R)) : String × Json R := ("data", obj [("values", arr records)])

/-- An encoding of a field, with what else is said about it. -/
def field (channel name : String) (more : List (String × Json R)) : Json R :=
  obj ([("channel", str channel), ("field", str name)] ++ more)

/-- The parts of a chart with listed encodings. -/
def chart (mark : String) (records encodings : List (Json R)) (more : List (String × Json R)) :
    Json R :=
  obj ([data records, ("mark", str mark), ("encodings", arr encodings)] ++ more)

/-! ## Bars -/

/-- A letter and its frequency. -/
def letter (name : String) (n : Int) : Json R := obj [("a", str name), ("b", int n)]

/-- Upright bars. -/
def bars : Json R :=
  chart "bar"
    [letter "A" 28, letter "B" 55, letter "C" 43, letter "D" 91, letter "E" 81, letter "F" 53,
      letter "G" 19, letter "H" 87, letter "I" 52]
    [field "x" "a" [], field "y" "b" [], field "tooltip" "b" []]
    []

/-- A fruit and how many there are. -/
def fruit (name : String) (n : Int) : Json R := obj [("fruit", str name), ("n", int n)]

/-- Lying bars. -/
def lyingBars : Json R :=
  obj
    [data [fruit "apples" 12, fruit "pears" 7, fruit "figs" 3],
      ("mark", str "bar"),
      ("encoding", obj
        [("y", obj [("field", str "fruit"), ("sort", str "descending")]),
          ("x", obj [("field", str "n")]),
          ("color", obj [("value", str "#e45756")])])]

/-! ## Points -/

/-- A car. -/
def car (power mileage : Int) (origin : String) (weight : Int) : Json R :=
  obj [("hp", int power), ("mpg", int mileage), ("origin", str origin), ("weight", int weight)]

/-- Points with colour and shape for the same field. -/
def scatter : Json R :=
  chart "point"
    [car 130 18 "USA" 3504, car 165 15 "USA" 3693, car 95 24 "Japan" 2372, car 88 27 "Japan" 2130,
      car 97 26 "Europe" 1835, car 46 26 "Europe" 1835, car 150 16 "USA" 4341,
      car 67 31 "Japan" 1950]
    [field "x" "hp" [("title", str "Horsepower")],
      field "y" "mpg" [("scale", obj [("zero", .bool false)])],
      field "color" "origin" [],
      field "shape" "origin" [],
      field "size" "weight" [("legend", obj [("title", str "Weight (lbs)")])],
      field "tooltip" "origin" [],
      field "tooltip" "hp" []]
    []

/-! ## Series -/

/-- Some days, a week apart. -/
def days : List String := ["2024-03-01", "2024-03-08", "2024-03-15", "2024-03-22", "2024-03-29"]

/-- The price of something on a day. -/
def quote (day name : String) (price : R) : Json R :=
  obj [("date", str day), ("symbol", str name), ("price", .real price)]

/-- The prices of two things, one rising and one falling. -/
def quotes : List (Json R) :=
  days.zipIdx.flatMap fun (day, i) =>
    let i : R := Scalar.ofNat i
    [quote day "AAA" (40.0 + 3.0 * i), quote day "BBB" (55.0 - 2.5 * i)]

/-- The encodings of a date and a price. -/
def datedPrice : List (Json R) :=
  [field "x" "date" [("type", str "temporal")], field "y" "price" []]

/-- A line for each thing. -/
def priceLines : Json R := chart "line" quotes (datedPrice ++ [field "color" "symbol" []]) []

/-- An area for each thing, with the legend below. -/
def priceAreas : Json R :=
  chart "area" quotes
    (datedPrice ++
      [field "color" "symbol" [("legend", obj [("orient", str "bottom")])],
        obj [("channel", str "opacity"), ("value", .real 0.5)]])
    []

/-! ## Summaries -/

/-- The score of a team. -/
def score (team : String) (n : Int) : Json R := obj [("team", str team), ("score", int n)]

/-- Mean scores. -/
def meanScores : Json R :=
  chart "bar"
    [score "red" 3, score "red" 9, score "blue" 4, score "blue" 6, score "green" 8]
    [field "x" "team" [("sort", arr [str "red", str "green", str "blue"])],
      field "y" "score" [("aggregate", str "mean")]]
    []

/-- Counts of teams. -/
def teamCounts : Json R :=
  chart "point"
    (["red", "red", "blue", "green"].map fun team => obj [("team", str team)])
    [field "y" "team" [],
      obj [("channel", str "x"), ("aggregate", str "count")],
      obj [("channel", str "size"), ("aggregate", str "count"), ("legend", .null)]]
    []

/-! ## Heat maps -/

/-- The load of the parts of some days. -/
def loads : List (Json R) :=
  ["mon", "tue", "wed", "thu"].zipIdx.flatMap fun (day, i) =>
    ["am", "pm", "night"].zipIdx.map fun (slot, j) =>
      obj [("day", str day), ("slot", str slot), ("load", int ((i * 3 + j * 7) % 11 : Nat))]

/-- A grid of days and their parts, which shows the load on a channel. -/
def loadGrid (mark channel : String) : Json R :=
  chart mark loads
    [field "x" "day" [("type", str "ordinal")],
      field "y" "slot" [("type", str "ordinal")],
      field channel "load" []]
    []

/-! ## Grids of charts -/

/-- The yield of varieties at some sites, early and late in the year. -/
def yields : List (Json R) :=
  ["Crookston", "Morris", "Waseca"].zipIdx.flatMap fun (site, s) =>
    ["Manchuria", "Glabron", "Peatland"].zipIdx.flatMap fun (variety, v) =>
      [("early", (0.0 : R)), ("late", 4.0)].map fun (year, more) =>
        obj
          [("site", str site), ("variety", str variety), ("year", str year),
            ("yield", .real (20.0 + Scalar.ofNat (s * 7 + v * 5) + more))]

/-- Bars by site and time of the year. -/
def yieldGrid (independent : Bool) : Json R :=
  chart "bar" yields
    [field "x" "variety" [], field "y" "yield" [], field "color" "variety" [("legend", .null)]]
    [("facet", obj
      [("column", obj [("field", str "site")]),
        ("row", obj
          [("field", str "year"), ("type", str "ordinal"),
            ("sort", arr [str "early", str "late"])]),
        ("independentScales", .bool independent),
        ("cellWidth", int 120),
        ("cellHeight", int 90)])]

/-! ## Order of drawing -/

/-- A city at a place on a line. -/
def town (name : String) (people : Int) (place : R) : Json R :=
  obj [("city", str name), ("pop", int people), ("x", .real place)]

/-- Overlapping circles, large ones first. -/
def overlappingCircles : Json R :=
  chart "circle"
    [town "Ames" 66 1.0, town "Boone" 12 1.4, town "Des Moines" 214 1.8, town "Nevada" 7 1.2]
    [field "x" "x" [("scale", obj [("zero", .bool false)])],
      field "size" "pop" [("scale", obj [("range", arr [int 0, int 4000])])],
      field "color" "city" [],
      field "order" "pop" [("sort", str "descending")]]
    []

/-! ## Parameters -/

/-- A city of a region. -/
def city (name : String) (people : Int) (region : String) : Json R :=
  obj [("city", str name), ("pop", int people), ("region", str region)]

/-- A comparison of a field. -/
def compares (name op : String) (rhs : Json R) : Json R :=
  obj [("field", str name), (op, rhs)]

/-- The current value of a parameter. -/
def param (name : String) : Json R := obj [("param", str name)]

/-- Cities that can be filtered by size and region. -/
def cities : Json R :=
  chart "bar"
    [city "Oslo" 700 "north", city "Bergen" 285 "west", city "Tromsø" 77 "north",
      city "Stavanger" 145 "west", city "Drammen" 102 "east"]
    [field "x" "city" [], field "y" "pop" []]
    [("params", arr
      [obj
        [("name", str "min_pop"), ("value", int 0),
          ("bind", obj
            [("input", str "range"), ("min", int 0), ("max", int 1000), ("step", int 10)])],
        obj
          [("name", str "region"), ("value", str "north"),
            ("bind", obj
              [("input", str "select"),
                ("options", arr [str "north", str "west", str "east"])])]]),
      ("transform", arr
        [obj [("filter", compares "pop" "gte" (param "min_pop"))],
          obj [("filter", obj
            [("or", arr
              [compares "region" "equal" (param "region"),
                compares "region" "equal" (str "east")])])]])]

/-! ## Mistakes -/

/-- Charts that cannot be drawn. -/
def mistakes : List (Json R) :=
  let v (n : Int) : Json R := obj [("v", int n)]
  [chart "point" [v 1, v 2] [field "shape" "v" []] [],
    chart "line" [v 1] [field "x" "v" []] [],
    chart "point" [v 1] [field "x" "w" []] [],
    obj [("mark", str "pie"), ("encodings", arr [])]]

end Sample

end Charting
