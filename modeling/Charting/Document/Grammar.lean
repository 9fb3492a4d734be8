import Charting.Json.Draft

/-!
# Grammar of documents

The definitions of a document as they are written: of the right types, but with names that may not
mean anything.  A definition is an object, or an array of its members in a fixed order; members that
are unknown are ignored, and known ones may not be repeated.

Definitions are read from drafts, since an unknown member need not have a value.
-/

namespace Charting

variable {R : Type}

namespace Json

/-- The members of a definition with the given names, which it may have as an object or as
an array. -/
def fields? (names : List String) : Json R → Option (String → Option (Json R))
  | object members =>
    if names.all fun name => (members.filter (·.1 == name)).length ≤ 1 then
      some fun name => members.lookup name
    else none
  | array items =>
    if items.length ≤ names.length then
      some fun name => (names.findIdx? (· == name)).bind (items[·]?)
    else none
  | _ => none

/-- A member that may be missing; the word `null` counts as missing. -/
def optional? {α : Type} (read? : Json R → Option α) : Option (Json R) → Option (Option α)
  | none | some null => some none
  | some j => (read? j).map some

/-- A member that has a default if it is missing. -/
def withDefault? {α : Type} (default : α) (read? : Json R → Option α) :
    Option (Json R) → Option α
  | none => some default
  | some j => read? j

/-- An array of things of one kind. -/
def listOf? {α : Type} (read? : Json R → Option α) (j : Json R) : Option (List α) :=
  j.items?.bind (·.mapM read?)

/-- A part without a grammar of its own, which has to have a value. -/
def free? (j : Draft R) : Option (Json R) := j.value?.map canonical

/-- An object without a grammar of its own. -/
def freeObject? (j : Draft R) : Option (List (String × Json R)) := (free? j).bind members?

/-- A number. -/
def numeric? [Scalar R] (j : Draft R) : Option R := j.value?.bind number?

end Json

open Json (Draft fields? optional? withDefault? listOf? free? freeObject? numeric?)

/-- The definition of a mark: a name, or an object. -/
structure MarkDef where
  /-- The name. -/
  type : String
  /-- Whether it is filled. -/
  filled : Option Bool

/-- Reads the definition of a mark. -/
def MarkDef.ofJson? : Json R → Option MarkDef
  | .string type => some ⟨type, none⟩
  | .object members => do
    let get ← fields? ["type", "filled"] (.object members)
    let type ← (get "type").bind Json.string?
    let filled ← optional? Json.bool? (get "filled")
    some ⟨type, filled⟩
  | _ => none

/-- Reads the definition of a mark, all members of which have to have a value. -/
def MarkDef.ofDraft? (j : Draft R) : Option MarkDef := j.value?.bind MarkDef.ofJson?

/-- The definition of a scale. -/
structure ScaleDef (R : Type) where
  /-- The kind. -/
  type : Option String
  /-- The domain. -/
  domain : Option (List (Json R))
  /-- The range. -/
  range : Option (List (Json R))
  /-- Whether the domain includes zero. -/
  zero : Option Bool
  /-- Whether the domain ends at round values. -/
  nice : Option Bool

/-- Reads the definition of a scale. -/
def ScaleDef.ofDraft? (j : Draft R) : Option (ScaleDef R) := do
  let get ← fields? ["type", "domain", "range", "zero", "nice"] j
  let type ← optional? Json.string? (get "type")
  let domain ← optional? (listOf? free?) (get "domain")
  let range ← optional? (listOf? free?) (get "range")
  let zero ← optional? Json.bool? (get "zero")
  let nice ← optional? Json.bool? (get "nice")
  some ⟨type, domain, range, zero, nice⟩

/-- The definition of a legend. -/
structure LegendDef where
  /-- Where it stands. -/
  orient : Option String
  /-- Where its title stands. -/
  titleOrient : Option String
  /-- Its title. -/
  title : Option String

/-- Reads the definition of a legend. -/
def LegendDef.ofDraft? (j : Draft R) : Option LegendDef := do
  let get ← fields? ["orient", "titleOrient", "title"] j
  let orient ← optional? Json.string? (get "orient")
  let titleOrient ← optional? Json.string? (get "titleOrient")
  let title ← optional? Json.string? (get "title")
  some ⟨orient, titleOrient, title⟩

/-- What is written about a legend. -/
inductive LegendEntryDef where
  /-- Nothing. -/
  | missing
  /-- That there is none. -/
  | hidden
  /-- How it is drawn. -/
  | given (d : LegendDef)

/-- Reads what is written about a legend; the word `null` hides it. -/
def LegendEntryDef.ofDraft? : Option (Draft R) → Option LegendEntryDef
  | none => some missing
  | some .null => some hidden
  | some j => (LegendDef.ofDraft? j).map given

/-- The definition of an encoding. -/
structure EncodingDef (R : Type) where
  /-- The channel. -/
  channel : Option String
  /-- The field. -/
  field : Option String
  /-- The constant. -/
  value : Option (Json R)
  /-- The level of measurement. -/
  type : Option String
  /-- The summary. -/
  aggregate : Option String
  /-- The order. -/
  sort : Option (Json R)
  /-- The scale. -/
  scale : Option (ScaleDef R)
  /-- The legend. -/
  legend : LegendEntryDef
  /-- The title. -/
  title : Option String

/-- Reads the definition of an encoding. -/
def EncodingDef.ofDraft? (j : Draft R) : Option (EncodingDef R) := do
  let get ← fields?
    ["channel", "field", "value", "type", "aggregate", "sort", "scale", "legend", "title"] j
  let channel ← optional? Json.string? (get "channel")
  let field ← optional? Json.string? (get "field")
  let value ← optional? free? (get "value")
  let type ← optional? Json.string? (get "type")
  let aggregate ← optional? Json.string? (get "aggregate")
  let sort ← optional? free? (get "sort")
  let scale ← optional? ScaleDef.ofDraft? (get "scale")
  let legend ← LegendEntryDef.ofDraft? (get "legend")
  let title ← optional? Json.string? (get "title")
  some ⟨channel, field, value, type, aggregate, sort, scale, legend, title⟩

/-- The definition of a grid. -/
structure FacetDef (R : Type) where
  /-- The encoding of the columns. -/
  column : Option (EncodingDef R)
  /-- The encoding of the rows. -/
  row : Option (EncodingDef R)
  /-- Whether every cell has scales of its own. -/
  independentScales : Bool
  /-- The width of a cell. -/
  cellWidth : Option R
  /-- The height of a cell. -/
  cellHeight : Option R

/-- The definition of a control. -/
structure BindDef (R : Type) where
  /-- The kind. -/
  input : String
  /-- The least value. -/
  min : Option R
  /-- The greatest value. -/
  max : Option R
  /-- The distance between values. -/
  step : Option R
  /-- The values to choose from. -/
  options : List (Json R)

/-- The definition of a parameter. -/
structure ParamDef (R : Type) where
  /-- The name. -/
  name : String
  /-- The initial value. -/
  value : Json R
  /-- The control. -/
  bind : Option (BindDef R)

/-- The definition of a chart. -/
structure ChartDef (R : Type) where
  /-- The records of the data. -/
  data : Option (List (Json R))
  /-- The mark. -/
  mark : MarkDef
  /-- The encodings that are listed. -/
  encodings : List (EncodingDef R)
  /-- The encodings that are given by channel, each with one definition or several. -/
  encoding : Option (List (String × Json R))
  /-- The width. -/
  width : Option R
  /-- The height. -/
  height : Option R
  /-- The grid. -/
  facet : Option (FacetDef R)
  /-- The parameters. -/
  params : List (ParamDef R)
  /-- The filters. -/
  filters : List (Json R)

variable [Scalar R]

/-- Reads the definition of a grid. -/
def FacetDef.ofDraft? (j : Draft R) : Option (FacetDef R) := do
  let get ← fields? ["column", "row", "independentScales", "cellWidth", "cellHeight"] j
  let column ← optional? EncodingDef.ofDraft? (get "column")
  let row ← optional? EncodingDef.ofDraft? (get "row")
  let independent ← withDefault? false Json.bool? (get "independentScales")
  let width ← optional? numeric? (get "cellWidth")
  let height ← optional? numeric? (get "cellHeight")
  some ⟨column, row, independent, width, height⟩

/-- Reads the definition of a control. -/
def BindDef.ofDraft? (j : Draft R) : Option (BindDef R) := do
  let get ← fields? ["input", "min", "max", "step", "options"] j
  let input ← (get "input").bind Json.string?
  let min ← optional? numeric? (get "min")
  let max ← optional? numeric? (get "max")
  let step ← optional? numeric? (get "step")
  let options ← withDefault? [] (listOf? free?) (get "options")
  some ⟨input, min, max, step, options⟩

/-- Reads the definition of a parameter. -/
def ParamDef.ofDraft? (j : Draft R) : Option (ParamDef R) := do
  let get ← fields? ["name", "value", "bind"] j
  let name ← (get "name").bind Json.string?
  let value ← withDefault? .null free? (get "value")
  let bind ← optional? BindDef.ofDraft? (get "bind")
  some ⟨name, value, bind⟩

namespace ChartDef

/-- Reads the records of the data. -/
def recordsOfDraft? (j : Draft R) : Option (List (Json R)) := do
  let get ← fields? ["values"] j
  withDefault? [] (listOf? free?) (get "values")

/-- Reads a filter of the data. -/
def filterOfDraft? (j : Draft R) : Option (Json R) := do
  let get ← fields? ["filter"] j
  (get "filter").bind free?

/-- The members of a chart that an array has to reach. -/
def leastLength : Nat := 6

/-- Whether a chart that is written as an array is long enough. -/
def isLongEnough : Draft R → Bool
  | .array items => leastLength ≤ items.length
  | _ => true

/-- Reads the definition of a chart. -/
def ofDraft? (j : Draft R) : Option (ChartDef R) := do
  guard (isLongEnough j)
  let get ← fields?
    ["data", "mark", "encodings", "encoding", "width", "height", "facet", "params", "transform"] j
  let data ← optional? recordsOfDraft? (get "data")
  let mark ← (get "mark").bind MarkDef.ofDraft?
  let encodings ← withDefault? [] (listOf? EncodingDef.ofDraft?) (get "encodings")
  let encoding ← optional? freeObject? (get "encoding")
  let width ← optional? numeric? (get "width")
  let height ← optional? numeric? (get "height")
  let facet ← optional? FacetDef.ofDraft? (get "facet")
  let params ← withDefault? [] (listOf? ParamDef.ofDraft?) (get "params")
  let filters ← withDefault? [] (listOf? filterOfDraft?) (get "transform")
  some
    { data := data
      mark := mark
      encodings := encodings
      encoding := encoding
      width := width
      height := height
      facet := facet
      params := params
      filters := filters }

end ChartDef

end Charting
