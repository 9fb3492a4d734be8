import Charting.Encoding.Constant
import Charting.Data.Dataset
import Charting.Scale.Basic

/-!
# Encodings

An encoding is a binding that has been checked against the data: its field is found and classified,
its scale is made, or its constant is read.
-/

namespace Charting

/-- A channel that shows a field. -/
structure FieldEncoding (R : Type) where
  /-- The binding that it comes from. -/
  binding : FieldBinding R
  /-- The column of the field. -/
  column : Nat
  /-- The level of measurement of the field. -/
  type : DataType
  /-- The kind of a quantitative field, if it is known. -/
  quantitativeKind : Option QuantitativeKind
  /-- The scale, if the channel has one. -/
  scale : Option (Scale R)
deriving BEq, Repr

/-- A channel that shows a field or a constant. -/
inductive Encoding (R : Type) where
  /-- A field. -/
  | field (f : FieldEncoding R)
  /-- A constant. -/
  | constant (channel : Channel) (value : Constant R)
deriving BEq, Repr

variable {R : Type}

namespace FieldEncoding

/-- The channel. -/
def channel (f : FieldEncoding R) : Channel := f.binding.channel

/-- The value of the field in a row. -/
def value? (f : FieldEncoding R) (row : Row R) : Option (Value R) := row.values[f.column]?

end FieldEncoding

namespace Encoding

/-- The channel. -/
def channel : Encoding R → Channel
  | field f => f.channel
  | constant c _ => c

/-- The field, if it shows one. -/
def field? : Encoding R → Option (FieldEncoding R)
  | field f => some f
  | constant _ _ => none

/-- The constant, if it shows one. -/
def constant? : Encoding R → Option (Constant R)
  | field _ => none
  | constant _ c => some c

end Encoding

/-- The encodings of a view, in the order of its bindings. -/
abbrev Encodings (R : Type) := List (Encoding R)

namespace Encodings

/-- The first encoding of a channel. -/
def on? (encodings : Encodings R) (channel : Channel) : Option (Encoding R) :=
  encodings.find? (·.channel == channel)

/-- The field that a channel shows. -/
def field? (encodings : Encodings R) (channel : Channel) : Option (FieldEncoding R) :=
  (encodings.on? channel).bind Encoding.field?

/-- The constant that a channel shows. -/
def constant? (encodings : Encodings R) (channel : Channel) : Option (Constant R) :=
  (encodings.on? channel).bind Encoding.constant?

/-- The scale of a channel. -/
def scale? (encodings : Encodings R) (channel : Channel) : Option (Scale R) :=
  (encodings.field? channel).bind (·.scale)

/-- Whether a channel shows anything. -/
def binds (encodings : Encodings R) (channel : Channel) : Bool := (encodings.on? channel).isSome

/-- Whether the scale of a channel has an interval as its domain. -/
def isContinuous [Scalar R] (encodings : Encodings R) (channel : Channel) : Bool :=
  (encodings.scale? channel).any Scale.isContinuous

/-- All encodings of the text that is shown on hovering. -/
def tooltips (encodings : Encodings R) : List (Encoding R) :=
  encodings.filter (·.channel == .tooltip)

/-- All fields that are shown. -/
def fields (encodings : Encodings R) : List (FieldEncoding R) := encodings.filterMap Encoding.field?

/-- The value that a channel shows of a row. -/
def value? (encodings : Encodings R) (channel : Channel) (row : Row R) : Option (Value R) :=
  (encodings.field? channel).bind (·.value? row)

/-- The image of the value that a channel shows of a row. -/
def image? [Scalar R] (encodings : Encodings R) (channel : Channel) (row : Row R) :
    Option (ScaleOutput R) := do
  let scale ← encodings.scale? channel
  let v ← encodings.value? channel row
  scale.map? v

end Encodings

end Charting
