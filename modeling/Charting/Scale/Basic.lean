import Charting.Color.Palette
import Charting.Scale.Band
import Charting.Scale.Label
import Charting.Scale.Linear
import Charting.Scale.Nice
import Charting.Scale.Temporal
import Charting.Spec.Binding

/-!
# Scales

A scale turns the values of a field into positions, areas, opacities, colours or shapes.  A
continuous domain is an interval of numbers, and values are read as numbers or times before they are
mapped; a discrete domain is a list of values, which are told apart by their keys.
-/

namespace Charting

/-- What a scale maps from. -/
inductive ScaleDomain (R : Type) where
  /-- The numbers of an interval; times count as their milliseconds. -/
  | continuous (lo hi : R)
  /-- The values of a list. -/
  | discrete (values : List (Value R))
deriving BEq, Repr

/-- What a scale maps to. -/
inductive ScaleRange (R : Type) where
  /-- The numbers between two ends. -/
  | interval (start stop : R)
  /-- Numbers, again and again. -/
  | numbers (xs : List R)
  /-- Colours, again and again. -/
  | colors (cs : List (Color R))
  /-- The colours on the way through some stops. -/
  | gradient (stops : List (Color R))
  /-- Shapes, again and again. -/
  | shapes (ss : List Symbol)
deriving BEq, Repr

/-- An image under a scale. -/
inductive ScaleOutput (R : Type) where
  /-- A position, an area or an opacity. -/
  | number (x : R)
  /-- A colour. -/
  | color (c : Color R)
  /-- A shape. -/
  | shape (s : Symbol)
deriving BEq, Repr

namespace ScaleOutput

variable {R : Type}

/-- The number, if it is one. -/
def number? : ScaleOutput R → Option R
  | number x => some x
  | _ => none

/-- The colour, if it is one. -/
def color? : ScaleOutput R → Option (Color R)
  | color c => some c
  | _ => none

/-- The shape, if it is one. -/
def shape? : ScaleOutput R → Option Symbol
  | shape s => some s
  | _ => none

end ScaleOutput

/-- A value that is marked on a scale, and its label. -/
structure ScaleTick (R : Type) where
  /-- The value. -/
  value : Value R
  /-- The label. -/
  label : String
deriving BEq, Repr

/-- A scale of a channel. -/
structure Scale (R : Type) where
  /-- The channel. -/
  channel : Channel
  /-- The level of measurement of the field. -/
  type : DataType
  /-- The kind. -/
  kind : ScaleKind
  /-- What it maps from. -/
  domain : ScaleDomain R
  /-- What it maps to. -/
  range : ScaleRange R
  /-- Whether zero was made part of the domain. -/
  zero : Bool
  /-- Whether the domain was extended to round values. -/
  nice : Bool
  /-- The gap between bands, in widths of a band. -/
  paddingInner : R
  /-- The gap beside the first and last band, in widths of a band. -/
  paddingOuter : R
deriving BEq, Repr

variable {R : Type} [Scalar R]

/-- The square root with the sign of its operand. -/
def signedSqrt (x : R) : R := if x < 0.0 then -Scalar.sqrt (-x) else Scalar.sqrt x

/-- The finite reading of a value on a continuous scale: as a time if the field or the scale is
about times, else as a number. -/
def readOnScale? (type : DataType) (kind : ScaleKind) (v : Value R) : Option R :=
  if type = .temporal ∨ kind = .time then (v.toTime?.map Scalar.ofInt).filter Scalar.isFinite
  else v.toFinite?

namespace Scale

/-- Whether the domain is an interval. -/
def isContinuous (s : Scale R) : Bool :=
  match s.domain with
  | .continuous _ _ => true
  | .discrete _ => false

/-- The ends of a continuous domain. -/
def extent? (s : Scale R) : Option (R × R) :=
  match s.domain with
  | .continuous lo hi => some (lo, hi)
  | .discrete _ => none

/-- The values of a discrete domain. -/
def values? (s : Scale R) : Option (List (Value R)) :=
  match s.domain with
  | .continuous _ _ => none
  | .discrete values => some values

/-- The position of a value in a discrete domain. -/
def index? (s : Scale R) (v : Value R) : Option Nat :=
  s.values?.bind fun values => values.findIdx? fun w => w.key = v.key

/-- The reading of a value as a number of a continuous domain. -/
def read? (s : Scale R) (v : Value R) : Option R := readOnScale? s.type s.kind v

/-- The bands of a discrete domain that is drawn as bands. -/
def bands? (s : Scale R) : Option (BandScale R) :=
  match s.kind, s.domain, s.range with
  | .band, .discrete values, .interval r₀ r₁ =>
    some ((BandScale.ofCount (r₀, r₁) values.length).withPadding s.paddingInner s.paddingOuter)
  | _, _, _ => none

/-- The start and the width of the band of a value. -/
def band? (s : Scale R) (v : Value R) : Option (R × R) := do
  let bands ← s.bands?
  let i ← s.index? v
  some (bands.start i, bands.width)

/-- The width of a band. -/
def bandWidth? (s : Scale R) : Option R := s.bands?.map BandScale.width

/-- Where a number is drawn linearly. -/
def onLine (s : Scale R) (x : R) : R := if s.kind = .sqrt then signedSqrt x else x

/-- The image of a number, where the domain is the interval from `lo` to `hi`. -/
def mapBetween? (s : Scale R) (lo hi x : R) : Option (ScaleOutput R) :=
  if !Scalar.isFinite x then none
  else
    let domain := (s.onLine lo, s.onLine hi)
    match s.range with
    | .interval r₀ r₁ => some (.number (LinearScale.map ⟨domain, (r₀, r₁)⟩ (s.onLine x)))
    | .gradient stops =>
      (Palette.interpolate? stops (LinearScale.map ⟨domain, (0.0, 1.0)⟩ (s.onLine x))).map .color
    | _ => none

/-- The image of the `i`-th of `n` values.  On an interval it is the centre of the band, or without
bands the end of the `i`-th of `n` equal parts. -/
def mapIndex? (s : Scale R) (i n : Nat) : Option (ScaleOutput R) :=
  match s.range with
  | .interval r₀ r₁ =>
    match s.bands? with
    | some bands => some (.number (bands.start i + 0.5 * bands.width))
    | none =>
      let t : R := Scalar.ofNat (i + 1) / Scalar.ofNat (max n 1)
      some (.number (r₀ + t * (r₁ - r₀)))
  | .numbers xs => (cycle? xs i).map .number
  | .colors cs => (cycle? cs i).map .color
  | .shapes ss => (cycle? ss i).map .shape
  | .gradient stops => (Palette.interpolate? stops (Palette.fraction i n)).map .color

/-- The image of a value; none if the value is missing, has no reading or is not in the domain. -/
def map? (s : Scale R) (v : Value R) : Option (ScaleOutput R) :=
  match s.domain with
  | .continuous lo hi => (s.read? v).bind (s.mapBetween? lo hi)
  | .discrete values => (s.index? v).bind fun i => s.mapIndex? i values.length

/-- The image of a value, if it is a number. -/
def mapNumber? (s : Scale R) (v : Value R) : Option R := (s.map? v).bind ScaleOutput.number?

/-- The image of a number of a continuous domain, if it is a number. -/
def mapRaw? (s : Scale R) (x : R) : Option R := do
  let (lo, hi) ← s.extent?
  let y ← s.mapBetween? lo hi x
  y.number?

/-- The ticks of an interval of numbers. -/
def numberTicks (lo hi : R) (count : Nat) : List (ScaleTick R) :=
  let ticks := linearTicks lo hi count
  let step := tickStep ticks
  ticks.map fun x => ⟨.number x, tickLabel x step⟩

/-- The ticks of an interval of times. -/
def dateTicks (lo hi : R) (count : Nat) : List (ScaleTick R) :=
  let (step, ticks) := timeTicks lo hi count
  ticks.map fun x => ⟨.time (Scalar.toInt64 x), timeLabel step x⟩

/-- The values that are marked, with their labels: about `count` round ones of an interval, and all
of a list. -/
def ticks (s : Scale R) (count : Nat) : List (ScaleTick R) :=
  match s.domain with
  | .discrete values => values.map fun v => ⟨v, v.text⟩
  | .continuous lo hi => if s.kind = .time then dateTicks lo hi count else numberTicks lo hi count

end Scale

end Charting
