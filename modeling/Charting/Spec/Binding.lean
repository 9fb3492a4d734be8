import Charting.Color.Basic
import Charting.Data.Aggregate
import Charting.Shape.Symbol
import Charting.Spec.Channel
import Charting.Spec.Orient

/-!
# Bindings

What a channel shows: a field of the data, with all that can be said about its scale and its legend,
or a constant.
-/

namespace Charting

/-- A kind of scale. -/
inductive ScaleKind where
  /-- Equal differences are drawn as equal distances. -/
  | linear
  /-- Square roots are drawn linearly, on both sides of zero. -/
  | sqrt
  /-- Times are drawn linearly. -/
  | time
  /-- Every value has a band of its own. -/
  | band
  /-- Every value has an element of a list. -/
  | ordinal
deriving DecidableEq, Repr, Inhabited

namespace ScaleKind

/-- The name in documents. -/
def name : ScaleKind → String
  | linear => "linear"
  | sqrt => "sqrt"
  | time => "time"
  | band => "band"
  | ordinal => "ordinal"

/-- The kind with a name. -/
def ofName? (s : String) : Option ScaleKind :=
  match s with
  | "linear" => some linear
  | "sqrt" => some sqrt
  | "time" | "utc" => some time
  | "band" => some band
  | "ordinal" => some ordinal
  | _ => none

/-- Whether the domain is an interval. -/
def isContinuous : ScaleKind → Bool
  | linear | sqrt | time => true
  | band | ordinal => false

end ScaleKind

/-- A domain that is given and not taken from the data. -/
inductive DomainOverride (R : Type) where
  /-- The ends of an interval. -/
  | interval (lo hi : Value R)
  /-- Values in order; two values can also be the ends of an interval. -/
  | values (vs : List (Value R))
deriving BEq, Repr

/-- A range that is given and not the default one. -/
inductive RangeOverride (R : Type) where
  /-- The ends of an interval. -/
  | interval (lo hi : R)
  /-- Numbers in order. -/
  | numbers (xs : List R)
  /-- Colours in order. -/
  | colors (cs : List (Color R))
  /-- Shapes in order. -/
  | shapes (ss : List Symbol)
deriving BEq, Repr

/-- What is said about a scale; each part that is said replaces the default. -/
structure ScaleSpec (R : Type) where
  /-- The kind. -/
  kind : Option ScaleKind
  /-- The domain. -/
  domain : Option (DomainOverride R)
  /-- The range. -/
  range : Option (RangeOverride R)
  /-- Whether a continuous domain includes zero. -/
  zero : Option Bool
  /-- Whether a continuous domain ends at round values. -/
  nice : Option Bool
deriving BEq, Repr

namespace ScaleSpec

/-- Nothing is said. -/
def auto {R : Type} : ScaleSpec R := ⟨none, none, none, none, none⟩

end ScaleSpec

/-- An order of values. -/
inductive SortOrder (R : Type) where
  /-- The natural order. -/
  | ascending
  /-- The natural order reversed. -/
  | descending
  /-- The listed values first, in the order of the list. -/
  | explicit (vs : List (Value R))
deriving BEq, Repr

/-- What is said about a legend; each part that is said replaces the default. -/
structure LegendSpec where
  /-- Where it stands. -/
  orient : Option LegendOrient
  /-- Where its title stands. -/
  titleOrient : Option TitleOrient
  /-- Its title. -/
  title : Option String
deriving DecidableEq, Repr

/-- Whether there is a legend. -/
inductive LegendSetting where
  /-- A legend with defaults. -/
  | auto
  /-- No legend. -/
  | hidden
  /-- A legend about which something is said. -/
  | custom (spec : LegendSpec)
deriving DecidableEq, Repr

/-- A channel that shows a field. -/
structure FieldBinding (R : Type) where
  /-- The channel. -/
  channel : Channel
  /-- The name of the field. -/
  field : String
  /-- The level of measurement, if it is declared here. -/
  type : Option DataType
  /-- The summary that is shown in place of the field, if any. -/
  aggregate : Option AggregateOp
  /-- What is said about the scale. -/
  scale : ScaleSpec R
  /-- The order of the values, if it is given. -/
  sort : Option (SortOrder R)
  /-- Whether there is a legend. -/
  legend : LegendSetting
  /-- The title of the axis or legend, if it is given. -/
  title : Option String
deriving BEq, Repr

namespace FieldBinding

variable {R : Type}

/-- A channel that shows a field about which nothing else is said. -/
def plain (channel : Channel) (field : String) : FieldBinding R :=
  ⟨channel, field, none, none, .auto, none, .auto, none⟩

/-- A text with its first letter in upper case. -/
def capitalize (s : String) : String :=
  match s.toList with
  | [] => ""
  | c :: rest => String.ofList (c.toUpper :: rest)

/-- The title of a field that is not given one: its name, or what is summarised. -/
def defaultTitle (b : FieldBinding R) : String :=
  match b.aggregate with
  | none => b.field
  | some .count => "Count of Records"
  | some op => capitalize op.name ++ " of " ++ b.field

/-- The title of a field. -/
def titleText (b : FieldBinding R) : String := b.title.getD b.defaultTitle

end FieldBinding

/-- What a channel shows. -/
inductive Binding (R : Type) where
  /-- A field. -/
  | field (b : FieldBinding R)
  /-- A constant. -/
  | constant (channel : Channel) (value : Value R)
deriving BEq, Repr

namespace Binding

variable {R : Type}

/-- The channel. -/
def channel : Binding R → Channel
  | field b => b.channel
  | constant c _ => c

/-- The field, if it is one. -/
def field? : Binding R → Option (FieldBinding R)
  | field b => some b
  | constant _ _ => none

end Binding

end Charting
