import Charting.Scale.Basic
import Charting.Scale.Domain
import Charting.Spec.Config
import Charting.Spec.Error

/-!
# Synthesis of scales

The scale of a field follows from its level of measurement, its values and its channel, except for
what is said about the scale.
-/

namespace Charting

/-- What a scale is made for. -/
structure ScaleRequest (R : Type) where
  /-- The channel. -/
  channel : Channel
  /-- The name of the field. -/
  field : String
  /-- The level of measurement of the field. -/
  type : DataType
  /-- The kind of a quantitative field, if it is known. -/
  quantitativeKind : Option QuantitativeKind
  /-- The mark that is drawn. -/
  mark : MarkKind
  /-- The size of the plot. -/
  extent : Size R
deriving Repr

namespace ScaleRequest

variable {R : Type} [Scalar R]

/-! ## Kinds -/

/-- The kind of a scale with a discrete domain: bands need an axis to be laid along. -/
def discreteKind (req : ScaleRequest R) : ScaleKind :=
  if req.channel.role = .position then .band else .ordinal

/-- The kind that suits the level of measurement. -/
def defaultKind (req : ScaleRequest R) : ScaleKind :=
  match req.type with
  | .nominal | .ordinal => req.discreteKind
  | .quantitative => .linear
  | .temporal => .time

/-- The kind of the scale; labels have no continuous scale. -/
def scaleKind (req : ScaleRequest R) (spec : ScaleSpec R) : Except (CompileError R) ScaleKind :=
  let kind := match spec.kind with
    | some .band => req.discreteKind
    | some kind => kind
    | none => req.defaultKind
  if kind.isContinuous && !req.type.isContinuous then
    .error (.incompatibleType req.channel req.type)
  else .ok kind

/-! ## Ranges -/

/-- The range of numbers of a channel that is not given one. -/
def defaultRange? (req : ScaleRequest R) (config : Config R) : Option (R × R) :=
  match req.channel with
  | .x => some (0.0, req.extent.width)
  | .y => some (0.0, req.extent.height)
  | .size => some config.sizeRange
  | .opacity => some config.opacityRange
  | _ => none

/-- The ends of a range of numbers: those that are given, or else the usual ones. -/
def rangeEnds? (usual : R × R) : Option (RangeOverride R) → Option (R × R)
  | none => some usual
  | some (.interval a b) => some (a, b)
  | some (.numbers (a :: b :: rest)) => some (a, (b :: rest).getLast (by simp))
  | some _ => none

/-- The range of numbers of a channel.  Vertical positions count down, so that their range is turned
round to put greater values higher. -/
def numericRange (req : ScaleRequest R) (given : Option (RangeOverride R)) (config : Config R) :
    Except (CompileError R) (R × R) := do
  let some usual := req.defaultRange? config | .error (.incompatibleRange req.channel)
  let some (min, max) := rangeEnds? usual given | .error (.incompatibleRange req.channel)
  if max < min || !Scalar.isFinite min || !Scalar.isFinite max then
    .error (.invalidRange req.channel min max)
  else .ok (if req.channel = .y then (max, min) else (min, max))

/-- The range of a continuous scale. -/
def continuousRange (req : ScaleRequest R) (given : Option (RangeOverride R)) (config : Config R) :
    Except (CompileError R) (ScaleRange R) :=
  match req.channel, given with
  | .color, none => .ok (.gradient config.sequential)
  | .color, some (.colors (c :: cs)) => .ok (.gradient (c :: cs))
  | .color, some _ => .error (.incompatibleRange req.channel)
  | _, _ => do
    let (a, b) ← req.numericRange given config
    .ok (.interval a b)

/-- `n` equal steps from `a`, which is left out, to `b`. -/
def equalSteps (a b : R) (n : Nat) : List R :=
  (List.range n).map fun i => a + (b - a) * Scalar.ofNat (i + 1) / Scalar.ofNat n

/-- The range of a discrete scale with `n` values. -/
def discreteRange (req : ScaleRequest R) (given : Option (RangeOverride R)) (n : Nat)
    (config : Config R) : Except (CompileError R) (ScaleRange R) :=
  match req.channel, given with
  | .x, _ | .y, _ => do
    let (a, b) ← req.numericRange given config
    .ok (.interval a b)
  | .size, some (.numbers (x :: xs)) | .opacity, some (.numbers (x :: xs)) =>
    .ok (.numbers (x :: xs))
  | .size, _ | .opacity, _ => do
    let (a, b) ← req.numericRange given config
    .ok (.numbers (equalSteps a b n))
  | .color, some (.colors (c :: cs)) => .ok (.colors (c :: cs))
  | .color, none =>
    .ok (.colors (if req.type = .nominal then config.categorical
      else Palette.sample config.sequential n))
  | .shape, some (.shapes (s :: ss)) => .ok (.shapes (s :: ss))
  | .shape, none => .ok (.shapes config.shapes)
  | channel, _ => .error (.incompatibleRange channel)

/-! ## Continuous scales -/

/-- The ends of a domain that is given, as they are written. -/
def givenEnds (req : ScaleRequest R) :
    Option (DomainOverride R) → Except (CompileError R) (Option (Value R × Value R))
  | none => .ok none
  | some (.interval a b) => .ok (some (a, b))
  | some (.values [a, b]) => .ok (some (a, b))
  | some (.values _) => .error (.invalidDomain req.channel)

/-- The least and the greatest of some numbers. -/
def minMax? : List R → Option (R × R)
  | [] => none
  | x :: rest => some (rest.foldl Scalar.min x, rest.foldl Scalar.max x)

/-- The domain before zero is considered: the ends that are given, or the least and the greatest
reading of the values. -/
def rawDomain (req : ScaleRequest R) (kind : ScaleKind) (ends : Option (Value R × Value R))
    (values : List (Value R)) : Except (CompileError R) (R × R) :=
  let read := readOnScale? req.type kind
  match ends with
  | some (a, b) =>
    match read a, read b with
    | some lo, some hi =>
      if hi < lo then .error (.invalidDomain req.channel) else .ok (lo, hi)
    | _, _ => .error (.invalidDomain req.channel)
  | none =>
    match minMax? (values.filterMap read) with
    | some bounds => .ok bounds
    | none => .error (.emptyDomain req.channel req.field)

/-- Whether zero belongs to the domain.  It does on positions and amounts unless the domain is given
or only differences are meaningful; it never does on times. -/
def includesZero (req : ScaleRequest R) (kind : ScaleKind) (spec : ScaleSpec R) : Bool :=
  if kind = .time then false
  else if spec.domain.isSome then spec.zero.getD false
  else spec.zero.getD ((req.channel.role = .position || req.channel.role = .magnitude) &&
    req.quantitativeKind != some .interval)

/-- Whether the domain is extended to round values. -/
def isNice (req : ScaleRequest R) (spec : ScaleSpec R) (zero : Bool) : Bool :=
  spec.nice.getD (spec.domain.isNone && (req.channel.role = .position || !zero))

/-- The interval extended to zero. -/
def withZero (domain : R × R) : R × R := (Scalar.min domain.1 0.0, Scalar.max domain.2 0.0)

/-- The interval extended to round values. -/
def niceBounds (kind : ScaleKind) (domain : R × R) (count : Nat) : R × R :=
  if kind = .time then niceTimeDomain domain.1 domain.2 count
  else niceDomain domain.1 domain.2 count

/-- A scale with an interval as its domain. -/
def continuousScale (req : ScaleRequest R) (kind : ScaleKind) (values : List (Value R))
    (spec : ScaleSpec R) (config : Config R) : Except (CompileError R) (Scale R) := do
  let ends ← req.givenEnds spec.domain
  let domain ← req.rawDomain kind ends values
  let zero := req.includesZero kind spec
  let domain := if zero then withZero domain else domain
  let nice := req.isNice spec zero
  let domain := if nice then niceBounds kind domain config.tickCount else domain
  let range ← req.continuousRange spec.range config
  .ok
    { channel := req.channel
      type := req.type
      kind := kind
      domain := .continuous domain.1 domain.2
      range := range
      zero := zero
      nice := nice
      paddingInner := 0.0
      paddingOuter := 0.0 }

/-! ## Discrete scales -/

/-- The values of the domain. -/
def domainValues (req : ScaleRequest R) (values : List (Value R)) (spec : ScaleSpec R)
    (sort : Option (SortOrder R)) : List (Value R) :=
  match spec.domain with
  | some (.values vs) => vs
  | some (.interval a b) => [a, b]
  | none => discreteDomain req.type values sort

/-- The gaps between and beside bands; cells of a heat map have none. -/
def bandPadding (req : ScaleRequest R) (kind : ScaleKind) (config : Config R) : R × R :=
  if kind = .band ∧ req.mark ≠ .rect then (config.bandPaddingInner, config.bandPaddingOuter)
  else (0.0, 0.0)

/-- A scale with a list of values as its domain. -/
def discreteScale (req : ScaleRequest R) (kind : ScaleKind) (values : List (Value R))
    (spec : ScaleSpec R) (sort : Option (SortOrder R)) (config : Config R) :
    Except (CompileError R) (Scale R) := do
  let domain := req.domainValues values spec sort
  if domain.isEmpty then
    .error (.emptyDomain req.channel req.field)
  else
    let range ← req.discreteRange spec.range domain.length config
    let (inner, outer) := req.bandPadding kind config
    .ok
      { channel := req.channel
        type := req.type
        kind := kind
        domain := .discrete domain
        range := range
        zero := false
        nice := false
        paddingInner := inner
        paddingOuter := outer }

/-- The scale of a field over the given values. -/
def synthesize (req : ScaleRequest R) (values : List (Value R)) (spec : ScaleSpec R)
    (sort : Option (SortOrder R)) (config : Config R) : Except (CompileError R) (Scale R) := do
  let kind ← req.scaleKind spec
  if kind.isContinuous then req.continuousScale kind values spec config
  else req.discreteScale kind values spec sort config

end ScaleRequest

end Charting
