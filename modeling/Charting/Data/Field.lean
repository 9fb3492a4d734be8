/-!
# Fields

The columns of a dataset and their levels of measurement.
-/

namespace Charting

/-- A level of measurement. -/
inductive DataType where
  /-- Labels that are only equal or different. -/
  | nominal
  /-- Labels with an order. -/
  | ordinal
  /-- Numbers. -/
  | quantitative
  /-- Points in time. -/
  | temporal
deriving DecidableEq, Repr, Inhabited

namespace DataType

/-- All levels. -/
def all : List DataType := [nominal, ordinal, quantitative, temporal]

/-- The name in documents. -/
def name : DataType → String
  | nominal => "nominal"
  | ordinal => "ordinal"
  | quantitative => "quantitative"
  | temporal => "temporal"

/-- The level with a name; the first letter of a name is enough. -/
def ofName? (s : String) : Option DataType :=
  all.find? fun t => s == t.name || s.toList == t.name.toList.take 1

/-- Whether values of this level form a continuous range. -/
def isContinuous : DataType → Bool
  | quantitative | temporal => true
  | nominal | ordinal => false

end DataType

/-- What the differences and ratios of a quantitative field mean. -/
inductive QuantitativeKind where
  /-- Only differences are meaningful. -/
  | interval
  /-- There is a true zero. -/
  | ratio
deriving DecidableEq, Repr

/-- A named column. -/
structure Field where
  /-- The name of the column. -/
  name : String
  /-- The declared level, if any; else it is inferred from the values. -/
  declared : Option DataType
  /-- The kind of a quantitative field, if it is known. -/
  kind : Option QuantitativeKind
deriving DecidableEq, Repr, Inhabited

/-- A field of which only the name is known. -/
def Field.untyped (name : String) : Field := ⟨name, none, none⟩

end Charting
