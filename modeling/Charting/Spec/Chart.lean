import Charting.Data.Predicate
import Charting.Spec.Binding
import Charting.Spec.Mark

/-!
# Charts

A chart says what to show: a mark with its bindings, possibly repeated in a grid, over the rows that
pass some filters, with parameters that filters can refer to.
-/

namespace Charting

variable {R : Type}

/-- How a parameter is controlled. -/
inductive ParamBind (R : Type) where
  /-- A number between two others, on a grid if a step is given. -/
  | slider (min max : R) (step : Option R)
  /-- One of the given values. -/
  | select (options : List (Value R))
  /-- A truth value. -/
  | checkbox
deriving BEq, DecidableEq, Repr

/-- A declared parameter. -/
structure ParamSpec (R : Type) where
  /-- The name that filters refer to. -/
  name : String
  /-- The initial value. -/
  value : Value R
  /-- The control; without one every value is accepted. -/
  bind : Option (ParamBind R)
deriving BEq, DecidableEq, Repr

/-- One mark with its bindings. -/
structure ViewSpec (R : Type) where
  /-- The mark. -/
  mark : MarkSpec
  /-- The bindings, in the order in which they are written. -/
  encodings : List (Binding R)
  /-- The width, if it is given. -/
  width : Option R
  /-- The height, if it is given. -/
  height : Option R
deriving Repr

namespace ViewSpec

/-- The first binding of a channel. -/
def binding? (view : ViewSpec R) (channel : Channel) : Option (Binding R) :=
  view.encodings.find? (·.channel == channel)

/-- The field of the first binding of a channel. -/
def field? (view : ViewSpec R) (channel : Channel) : Option (FieldBinding R) :=
  (view.binding? channel).bind Binding.field?

/-- Whether the view is repeated in a grid. -/
def isFaceted (view : ViewSpec R) : Bool :=
  view.encodings.any fun b => b.channel == .column || b.channel == .row

end ViewSpec

/-- How a view is repeated in a grid. -/
structure FacetSpec (R : Type) where
  /-- Whether every cell has scales of its own. -/
  independentScales : Bool
  /-- The width of a cell, if it is given. -/
  cellWidth : Option R
  /-- The height of a cell, if it is given. -/
  cellHeight : Option R
deriving Repr

/-- Shared scales, and cells that fill the view. -/
def FacetSpec.standard : FacetSpec R := ⟨false, none, none⟩

/-- A complete chart. -/
structure ChartSpec (R : Type) where
  /-- The view. -/
  view : ViewSpec R
  /-- How the view is repeated, if it is. -/
  facet : FacetSpec R
  /-- The parameters. -/
  params : List (ParamSpec R)
  /-- The filters, in order. -/
  filters : List (Predicate R)

end Charting
