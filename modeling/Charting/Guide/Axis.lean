import Charting.Guide.Measure
import Charting.Scale.Basic
import Charting.Spec.Config

/-!
# Axes

An axis shows the scale of a position: a line with labelled ticks and a title.  Scenes draw one axis
in one or many places.
-/

namespace Charting

/-- A tick of an axis. -/
structure AxisTick (R : Type) where
  /-- The value that is marked. -/
  value : Value R
  /-- The distance from the upper or left end of the plot. -/
  position : R
  /-- The label. -/
  label : String
deriving BEq, Repr

/-- An axis. -/
structure Axis (R : Type) where
  /-- The channel whose scale it shows. -/
  channel : Channel
  /-- Where it stands. -/
  orient : AxisOrient
  /-- The kind of the scale. -/
  kind : ScaleKind
  /-- The domain of the scale. -/
  domain : ScaleDomain R
  /-- The range of the scale. -/
  range : R × R
  /-- The ticks, in the order of the domain. -/
  ticks : List (AxisTick R)
  /-- The title. -/
  title : String
  /-- Where it is drawn in the scene. -/
  placements : List (Rect R)
deriving BEq, Repr

variable {R : Type} [Scalar R]

namespace Axis

/-- Where the axis of a channel stands, if it has one. -/
def orient? : Channel → Option AxisOrient
  | .x => some .bottom
  | .y => some .left
  | _ => none

/-- The ticks of a scale that have a position. -/
def ticksOf (scale : Scale R) (count : Nat) : List (AxisTick R) :=
  (scale.ticks count).filterMap fun t =>
    (scale.mapNumber? t.value).map fun p => ⟨t.value, p, t.label⟩

/-- The axis of a scale; only the scales of positions have one. -/
def ofScale? (scale : Scale R) (title : String) (count : Nat) : Option (Axis R) :=
  match orient? scale.channel, scale.range with
  | some orient, .interval r₀ r₁ =>
    some
      { channel := scale.channel
        orient := orient
        kind := scale.kind
        domain := scale.domain
        range := (r₀, r₁)
        ticks := ticksOf scale count
        title := title
        placements := [] }
  | _, _ => none

/-- How thick an axis is: its ticks, its labels and its title, which runs along the axis. -/
def measure (a : Axis R) (style : AxisStyle R) (m : TextMeasurer R) : R :=
  let labels := a.ticks.map (·.label)
  let ticks := Scalar.abs style.tickSize + Scalar.max style.tickPadding 0.0
  let labels := if a.orient.isHorizontal then m.maxHeight labels style.labelFontSize
    else m.maxWidth labels style.labelFontSize
  let title := if a.title.isEmpty then 0.0
    else Scalar.max style.titleOffset 0.0 + (m.measure a.title style.titleFontSize).height
  ticks + labels + title

/-- Whether two axes look the same, wherever they are drawn. -/
def same (a b : Axis R) : Bool :=
  a.channel == b.channel && a.orient == b.orient && a.kind == b.kind && a.domain == b.domain &&
    a.range == b.range && a.ticks == b.ticks && a.title == b.title

end Axis

end Charting
