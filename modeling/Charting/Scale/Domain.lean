import Charting.Data.Grouping
import Charting.Spec.Binding

/-!
# Discrete domains

The distinct values of a field, in an order that follows from its level of measurement or is given.
-/

namespace Charting

variable {R : Type} [Scalar R]

/-- Whether one value may stand before another in the natural order. -/
def naturallyBefore (v w : Value R) : Bool := v.naturalOrder w != .gt

/-- Removes the first value with a key; the value comes first in the result. -/
def takeKey? (key : Value R) : List (Value R) → Option (Value R × List (Value R))
  | [] => none
  | v :: rest =>
    if v.key = key then some (v, rest)
    else (takeKey? key rest).map fun (w, rest) => (w, v :: rest)

/-- The listed values that were observed, in the order of the list, and then the others as
they are. -/
def explicitOrder (observed : List (Value R)) : (order : List (Value R)) → List (Value R)
  | [] => observed
  | want :: order =>
    match takeKey? want.key observed with
    | some (v, rest) => v :: explicitOrder rest order
    | none => explicitOrder observed order

/-- The values in a given order. -/
def SortOrder.apply (sort : SortOrder R) (values : List (Value R)) : List (Value R) :=
  match sort with
  | .ascending => values.mergeSort naturallyBefore
  | .descending => values.mergeSort fun v w => naturallyBefore w v
  | .explicit order => explicitOrder values order

/-- The distinct values, missing ones left out.  Nominal values stay in order of first appearance,
and others are in their natural order, unless an order is given. -/
def discreteDomain (type : DataType) (values : List (Value R)) (sort : Option (SortOrder R)) :
    List (Value R) :=
  let distinct := distinctBy Value.key (values.filter (!·.isNull))
  match sort with
  | some sort => sort.apply distinct
  | none => if type = .nominal then distinct else SortOrder.ascending.apply distinct

end Charting
