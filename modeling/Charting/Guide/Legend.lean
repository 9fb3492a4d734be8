import Charting.Guide.Measure
import Charting.Scale.Basic
import Charting.Spec.Config

/-!
# Legends

A legend explains a field that is shown by colour, size, shape or opacity: its entries pair values
with what they look like.  A continuous field that is shown by colour alone has a ramp of colours.
-/

namespace Charting

/-- How the entries of a legend are drawn. -/
inductive LegendKind where
  /-- As symbols in a list. -/
  | symbol
  /-- As points of a ramp. -/
  | gradient
deriving DecidableEq, Repr

/-- A value and what it looks like on each channel of the legend. -/
structure LegendEntry (R : Type) where
  /-- The value. -/
  value : Value R
  /-- The label. -/
  label : String
  /-- The colour. -/
  color : Option (Color R)
  /-- The area. -/
  size : Option R
  /-- The shape. -/
  shape : Option Symbol
  /-- The opacity. -/
  opacity : Option R
deriving BEq, Repr

/-- A legend. -/
structure Legend (R : Type) where
  /-- The channels that it explains. -/
  channels : List Channel
  /-- The field that they show. -/
  field : String
  /-- The level of measurement of the field. -/
  type : DataType
  /-- The title. -/
  title : String
  /-- How the entries are drawn. -/
  kind : LegendKind
  /-- The entries, in the order of the domain. -/
  entries : List (LegendEntry R)
  /-- Where it stands. -/
  orient : LegendOrient
  /-- Where its title stands. -/
  titleOrient : TitleOrient
  /-- The rectangle that it is drawn in. -/
  bounds : Rect R
deriving BEq, Repr

variable {R : Type} [Scalar R]

namespace LegendEntry

/-- The extent of the symbol of an entry, if it has a size. -/
def extent? (e : LegendEntry R) : Option R :=
  e.size.map fun area => (e.shape.getD .circle).extent area

end LegendEntry

namespace Legend

/-- The extent of the largest symbol, at least that of a swatch. -/
def symbolExtent (l : Legend R) (style : LegendStyle R) : R :=
  (l.entries.filterMap LegendEntry.extent?).foldl Scalar.max style.swatchSize

/-- The height of a row. -/
def rowHeight (l : Legend R) (style : LegendStyle R) : R :=
  Scalar.max (l.symbolExtent style) style.fontSize

/-- The height of all rows, with gaps between them. -/
def rowsHeight (l : Legend R) (style : LegendStyle R) : R :=
  let n : R := Scalar.ofNat l.entries.length
  if 0.0 < n then n * l.rowHeight style + (n - 1.0) * style.rowGap else 0.0

/-- The size of the entries. -/
def bodySize (l : Legend R) (style : LegendStyle R) (m : TextMeasurer R) : Size R :=
  let labels := m.maxWidth (l.entries.map (·.label)) style.fontSize
  match l.kind with
  | .symbol => ⟨l.symbolExtent style + style.labelGap + labels, l.rowsHeight style⟩
  | .gradient => ⟨style.gradientThickness + style.labelGap + labels, style.gradientLength⟩

/-- The size of a legend: its entries, and its title above, below or beside them. -/
def measure (l : Legend R) (style : LegendStyle R) (m : TextMeasurer R) : Size R :=
  let body := l.bodySize style m
  if l.title.isEmpty then body
  else
    let title := m.measure l.title style.titleFontSize
    let padding := Scalar.max style.titlePadding 0.0
    if l.titleOrient.isBeside then
      ⟨body.width + padding + title.width, Scalar.max body.height title.height⟩
    else ⟨Scalar.max body.width title.width, body.height + padding + title.height⟩

/-- Whether two legends look the same, wherever they are drawn. -/
def same (a b : Legend R) : Bool :=
  a.channels == b.channels && a.field == b.field && a.type == b.type && a.title == b.title &&
    a.kind == b.kind && a.entries == b.entries && a.orient == b.orient &&
    a.titleOrient == b.titleOrient

end Legend

end Charting
