import Charting.Color.Parser
import Charting.Document.Filter
import Charting.Document.Grammar
import Charting.Json.Parser
import Charting.Spec.Chart

/-!
# Reading documents

A document describes a chart together with its data.  Its definitions are read first, as far as
their types go; then their names are given meaning, in the order data, mark, encodings, grid,
parameters, filters.  The first mistake is reported.
-/

namespace Charting

/-- A chart and the data that it is drawn over. -/
structure ChartDocument (R : Type) where
  /-- The chart. -/
  spec : ChartSpec R
  /-- The data, before filtering. -/
  data : Dataset R

variable {R : Type} [Scalar R]

/-- A value that has to be there, or else an error. -/
def orError {ε α : Type} (e : ε) : Option α → Except ε α
  | some x => .ok x
  | none => .error e

/-- The meaning of a part that may be missing. -/
def optionally {ε α β : Type} (f : α → Except ε β) : Option α → Except ε (Option β)
  | some x => (f x).map some
  | none => .ok none

/-- The mark that a definition stands for. -/
def MarkDef.toMark (d : MarkDef) : Except DocumentError MarkSpec :=
  match MarkKind.ofName? d.type with
  | some kind => .ok ⟨kind, d.filled⟩
  | none => .error (.unknownMark d.type)

/-! ## Scales, orders and legends -/

namespace ScaleDef

/-- The range of numbers, shapes or colours that a list stands for. -/
def toRange (range : List (Json R)) : Except DocumentError (RangeOverride R) :=
  match range.mapM Json.number?, range.mapM Json.string? with
  | some xs, _ => .ok (.numbers xs)
  | none, none => .error (.invalid "scale" "range mixes numbers and strings")
  | none, some names =>
    match names.mapM Symbol.ofName?, names.mapM (Color.read? (R := R)) with
    | some shapes, _ => .ok (.shapes shapes)
    | none, some colors => .ok (.colors colors)
    | none, none => .error (.invalid "scale" "range entries are neither colours nor shapes")

/-- The kind of scale with a name. -/
def toKind (name : String) : Except DocumentError ScaleKind :=
  orError (.invalid "scale" ("unknown type `" ++ name ++ "`")) (ScaleKind.ofName? name)

/-- What a definition says about a scale. -/
def toSpec (d : ScaleDef R) : Except DocumentError (ScaleSpec R) := do
  let kind ← optionally toKind d.type
  let range ← optionally toRange d.range
  .ok
    { kind := kind
      domain := d.domain.map fun vs => .values (vs.map .ofJson)
      range := range
      zero := d.zero
      nice := d.nice }

end ScaleDef

/-- The order that a definition stands for. -/
def SortOrder.ofJson : Json R → Except DocumentError (SortOrder R)
  | .string "ascending" => .ok .ascending
  | .string "descending" => .ok .descending
  | .string other => .error (.invalid "sort" ("unknown order `" ++ other ++ "`"))
  | .array vs => .ok (.explicit (vs.map .ofJson))
  | _ => .error (.invalid "sort" "expected a string or an array")

namespace LegendDef

/-- What a definition says about a legend. -/
def toSpec (d : LegendDef) : Except DocumentError LegendSpec := do
  let orient ← optionally (fun name =>
    orError (.invalid "legend" ("unknown orient `" ++ name ++ "`")) (LegendOrient.ofName? name))
    d.orient
  let titleOrient ← optionally (fun name =>
    orError (.invalid "legend" ("unknown titleOrient `" ++ name ++ "`"))
      (TitleOrient.ofName? name))
    d.titleOrient
  .ok ⟨orient, titleOrient, d.title⟩

end LegendDef

/-- What a definition says about whether there is a legend. -/
def LegendEntryDef.toSetting : LegendEntryDef → Except DocumentError LegendSetting
  | missing => .ok .auto
  | hidden => .ok .hidden
  | given d => d.toSpec.map .custom

/-! ## Encodings -/

namespace EncodingDef

/-- The summary with a name. -/
def toAggregate (name : String) : Except DocumentError AggregateOp :=
  orError (.unknownAggregate name) (AggregateOp.ofName? name)

/-- The level of measurement with a name, in upper or lower case. -/
def toType (name : String) : Except DocumentError DataType :=
  orError (.unknownType name)
    (DataType.ofName? (String.ofList (name.toList.map Char.toLower)))

/-- The field that is counted when none is named. -/
def anyField : String := "*"

/-- The field that a definition names; counting needs none. -/
def fieldName? (d : EncodingDef R) (aggregate : Option AggregateOp) : Option String :=
  match d.field with
  | some field => some field
  | none => if aggregate = some .count then some anyField else none

/-- The binding of a channel to a field. -/
def toFieldBinding (d : EncodingDef R) (channel : Channel) (field : String)
    (aggregate : Option AggregateOp) : Except DocumentError (FieldBinding R) := do
  let type ← optionally toType d.type
  let sort ← optionally SortOrder.ofJson d.sort
  let scale ← optionally ScaleDef.toSpec d.scale
  let legend ← d.legend.toSetting
  .ok
    { channel := channel
      field := field
      type := type
      aggregate := aggregate
      scale := scale.getD .auto
      sort := sort
      legend := legend
      title := d.title }

/-- The binding of the channel with a name. -/
def toBinding (d : EncodingDef R) (name : String) : Except DocumentError (Binding R) := do
  let channel ← orError (.unknownChannel name) (Channel.ofName? name)
  let aggregate ← optionally toAggregate d.aggregate
  match d.fieldName? aggregate, d.value with
  | some field, _ => (d.toFieldBinding channel field aggregate).map .field
  | none, some v => .ok (.constant channel (.ofJson v))
  | none, none => .error (.emptyBinding name)

/-- The binding of an encoding in a list, which has to name its channel. -/
def toListedBinding (d : EncodingDef R) : Except DocumentError (Binding R) :=
  match d.channel with
  | some name => d.toBinding name
  | none => .error (.invalid "encoding" "missing `channel`")

/-- The binding of a definition that is given under the name of a channel. -/
def bindingOfJson (name : String) (j : Json R) : Except DocumentError (Binding R) := do
  let d ← orError .json (EncodingDef.ofDraft? j.draft)
  d.toBinding name

/-- The bindings of a channel: one definition, or an array of definitions. -/
def bindingsOfJson (name : String) : Json R → Except DocumentError (List (Binding R))
  | .array items => items.mapM (bindingOfJson name)
  | j => (bindingOfJson name j).map ([·])

/-- The bindings of encodings that are given by channel. -/
def bindingsOfMembers (members : List (String × Json R)) :
    Except DocumentError (List (Binding R)) := do
  let bindings ← members.mapM fun (name, j) => bindingsOfJson name j
  .ok bindings.flatten

end EncodingDef

namespace FacetDef

/-- The bindings of the columns and rows of a grid. -/
def toBindings (d : FacetDef R) : Except DocumentError (List (Binding R)) := do
  let column ← optionally (EncodingDef.toBinding · "column") d.column
  let row ← optionally (EncodingDef.toBinding · "row") d.row
  .ok (column.toList ++ row.toList)

/-- How a view is repeated. -/
def toSpec (d : FacetDef R) : FacetSpec R := ⟨d.independentScales, d.cellWidth, d.cellHeight⟩

end FacetDef

/-! ## Parameters -/

/-- The control that a definition stands for. -/
def BindDef.toBind (d : BindDef R) : Except DocumentError (ParamBind R) :=
  match d.input with
  | "range" | "slider" =>
    match d.min, d.max with
    | some min, some max => .ok (.slider min max d.step)
    | _, _ => .error (.invalid "bind" "a range needs `min` and `max`")
  | "select" | "radio" => .ok (.select (d.options.map .ofJson))
  | "checkbox" => .ok .checkbox
  | other => .error (.invalid "bind" ("unknown input `" ++ other ++ "`"))

/-- The parameter that a definition stands for. -/
def ParamDef.toSpec (d : ParamDef R) : Except DocumentError (ParamSpec R) := do
  let bind ← optionally BindDef.toBind d.bind
  .ok ⟨d.name, .ofJson d.value, bind⟩

/-! ## Charts -/

namespace ChartDef

/-- The data of a chart; without any there are no columns. -/
def toDataset (d : ChartDef R) : Except DocumentError (Dataset R) :=
  match d.data with
  | some records => (Dataset.ofRecords records).mapError .data
  | none => .ok (.empty [])

/-- All bindings of a chart: those of the list, those by channel and those of the grid. -/
def toBindings (d : ChartDef R) : Except DocumentError (List (Binding R)) := do
  let listed ← d.encodings.mapM EncodingDef.toListedBinding
  let byChannel ← EncodingDef.bindingsOfMembers (d.encoding.getD [])
  let ofGrid ← optionally FacetDef.toBindings d.facet
  .ok (listed ++ byChannel ++ ofGrid.getD [])

/-- The chart that a definition stands for, with its data. -/
def toDocument (d : ChartDef R) : Except DocumentError (ChartDocument R) := do
  let data ← d.toDataset
  let mark ← d.mark.toMark
  let bindings ← d.toBindings
  let params ← d.params.mapM ParamDef.toSpec
  let filters ← d.filters.mapM Filter.ofJson
  .ok
    { spec :=
        { view := ⟨mark, bindings, d.width, d.height⟩
          facet := (d.facet.map FacetDef.toSpec).getD .standard
          params := params
          filters := filters }
      data := data }

end ChartDef

namespace ChartDocument

/-- The document that a definition stands for. -/
def ofDraft (j : Json.Draft R) : Except DocumentError (ChartDocument R) := do
  let d ← orError .json (ChartDef.ofDraft? j)
  d.toDocument

/-- Reads a document from a value; of repeated members the last one counts. -/
def ofJson (j : Json R) : Except DocumentError (ChartDocument R) :=
  ofDraft j.canonical.draft

/-- Reads a document from a text. -/
def parse (s : String) : Except DocumentError (ChartDocument R) := do
  let j ← orError .json (Json.readDraft? s)
  ofDraft j

end ChartDocument

end Charting
