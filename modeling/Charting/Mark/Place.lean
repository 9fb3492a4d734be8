import Charting.Encoding.Basic

/-!
# Places on an axis

Where a row is found along one axis: nowhere in particular, at a point, or on a band.
-/

namespace Charting

/-- A place on an axis. -/
inductive Place (R : Type) where
  /-- Nowhere in particular: nothing is bound to the axis. -/
  | free
  /-- At a point. -/
  | point (p : R)
  /-- On a band with a start and a width. -/
  | band (start width : R)
deriving BEq, DecidableEq, Repr

variable {R : Type} [Scalar R]

namespace Place

/-- The middle of a place on an axis of the given length. -/
def center (extent : R) : Place R → R
  | free => 0.5 * extent
  | point p => p
  | band start width => start + 0.5 * width

/-- The ends of a place on an axis of the given length, where a point counts as so thick. -/
def span (extent thickness : R) : Place R → R × R
  | free => (0.0, extent)
  | point p => (p - 0.5 * thickness, p + 0.5 * thickness)
  | band start width => (start, start + width)

/-- The interval between a point and a baseline; other places keep their ends. -/
def toBaseline (extent baseline : R) : Place R → R × R
  | point p => (Scalar.min p baseline, Scalar.max p baseline)
  | place => place.span extent 0.0

end Place

namespace Encodings

/-- Where a row is found along the axis of a channel; none if the channel is bound but the row has
no value that can be drawn. -/
def place? (encodings : Encodings R) (channel : Channel) (row : Row R) : Option (Place R) :=
  match encodings.on? channel with
  | none => some .free
  | some (.constant _ (.number p)) => some (.point p)
  | some (.constant _ _) => some .free
  | some (.field f) => do
    let scale ← f.scale
    let v ← f.value? row
    match scale.band? v with
    | some (start, width) => some (.band start width)
    | none => ((scale.mapNumber? v).filter Scalar.isFinite).map .point

/-- Where the baseline of an axis is: at zero or as near as the domain gets, and at `edge` if the
axis has no interval as its domain. -/
def baseline (encodings : Encodings R) (channel : Channel) (edge : R) : R :=
  let drawn := do
    let scale ← encodings.scale? channel
    let (lo, hi) ← scale.extent?
    scale.mapRaw? (Scalar.min (Scalar.max 0.0 lo) hi)
  drawn.getD edge

end Encodings

end Charting
