import Charting.Data.Grouping
import Charting.Encoding.Basic
import Charting.Guide.Axis
import Charting.Guide.Legend

/-!
# Guides of a plot

The axes of the positions, and one legend for each field that is shown by colour, size, shape or
opacity, on however many of these channels it is shown.
-/

namespace Charting

/-- The axes and legends of a plot. -/
structure Guides (R : Type) where
  /-- The axes, the horizontal one first. -/
  axes : List (Axis R)
  /-- The legends. -/
  legends : List (Legend R)

/-- No axes and no legends. -/
def Guides.none {R : Type} : Guides R := ⟨[], []⟩

variable {R : Type} [Scalar R]

/-- The channels that have axes. -/
def axisChannels : List Channel := [.x, .y]

/-- The channels that have legends, in the order in which legends name them. -/
def legendChannels : List Channel := [.color, .size, .shape, .opacity]

namespace Legend

/-- What a value looks like on one of the channels of some fields. -/
def image? (fields : List (FieldEncoding R)) (channel : Channel) (v : Value R) :
    Option (ScaleOutput R) := do
  let f ← fields.find? (·.channel == channel)
  let scale ← f.scale
  scale.map? v

/-- The entry of a tick. -/
def entry (fields : List (FieldEncoding R)) (t : ScaleTick R) : LegendEntry R :=
  { value := t.value
    label := t.label
    color := (image? fields .color t.value).bind ScaleOutput.color?
    size := (image? fields .size t.value).bind ScaleOutput.number?
    shape := (image? fields .shape t.value).bind ScaleOutput.shape?
    opacity := (image? fields .opacity t.value).bind ScaleOutput.number? }

/-- What is said about the legend of a field. -/
def specOf (setting : LegendSetting) : LegendSpec :=
  match setting with
  | .custom spec => spec
  | .auto | .hidden => ⟨none, none, none⟩

/-- The legend of a field that is shown on several channels.  The first one is decisive: for what is
said about the legend, and for the values of the entries. -/
def ofFields (first : FieldEncoding R) (rest : List (FieldEncoding R)) (config : Config R) :
    Legend R :=
  let fields := first :: rest
  let spec := specOf first.binding.legend
  let isRamp := rest.isEmpty && first.channel == .color && first.scale.any Scale.isContinuous
  let ticks := (first.scale.map (·.ticks config.tickCount)).getD []
  { channels := fields.map (·.channel)
    field := first.binding.field
    type := first.type
    title := spec.title.getD first.binding.titleText
    kind := if isRamp then .gradient else .symbol
    entries := ticks.map (entry fields)
    orient := spec.orient.getD config.legendOrient
    titleOrient := spec.titleOrient.getD config.legendTitleOrient
    bounds := default }

end Legend

namespace Encodings

/-- The axes of the positions. -/
def axes (encodings : Encodings R) (config : Config R) : List (Axis R) :=
  axisChannels.filterMap fun c => do
    let f ← encodings.field? c
    let scale ← f.scale
    Axis.ofScale? scale f.binding.titleText config.tickCount

/-- The fields that have legends. -/
def legendFields (encodings : Encodings R) : List (FieldEncoding R) :=
  legendChannels.filterMap fun c =>
    (encodings.field? c).filter fun f => f.scale.isSome && f.binding.legend != .hidden

/-- The legends; channels that show the same field share one. -/
def legends (encodings : Encodings R) (config : Config R) : List (Legend R) :=
  (groupBy (fun f => (f.binding.field, f.type)) encodings.legendFields).filterMap fun (_, fields) =>
    match fields with
    | first :: rest => some (Legend.ofFields first rest config)
    | [] => none

/-- The axes and legends. -/
def guides (encodings : Encodings R) (config : Config R) : Guides R :=
  ⟨encodings.axes config, encodings.legends config⟩

end Encodings

end Charting
