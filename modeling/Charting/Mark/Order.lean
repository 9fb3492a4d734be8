import Charting.Encoding.Basic

/-!
# Order of drawing

Marks are drawn one over another in the order of the rows, or in the order of a field if one is
bound to the order of drawing.
-/

namespace Charting

variable {R : Type} [Scalar R]

namespace SortOrder

/-- The position of a value in a list that is given as an order. -/
def rank? (sort : Option (SortOrder R)) (v : Value R) : Option Nat :=
  match sort with
  | some (.explicit vs) => vs.findIdx? fun w => w.key = v.key
  | _ => none

/-- Listed values come first, in the order of the list; the others follow in their natural order. -/
def compareListed (sort : Option (SortOrder R)) (v w : Value R) : Ordering :=
  match rank? sort v, rank? sort w with
  | some i, some j => compare i j
  | some _, none => .lt
  | none, some _ => .gt
  | none, none => v.naturalOrder w

/-- The order of two values under a sort; missing values come last, whatever the sort. -/
def compareUnder (sort : Option (SortOrder R)) (v w : Option (Value R)) : Ordering :=
  match v, w with
  | none, none => .eq
  | none, some _ => .gt
  | some _, none => .lt
  | some v, some w =>
    match sort with
    | some .descending => (compareListed sort v w).swap
    | _ => compareListed sort v w

end SortOrder

namespace FieldEncoding

/-- The value that the place of a row in the order depends on; missing values count as none. -/
def orderKey (f : FieldEncoding R) (row : Row R) : Option (Value R) :=
  (f.value? row).filter (!·.isNull)

/-- The order of two rows. -/
def compareRows (f : FieldEncoding R) (a b : Row R) : Ordering :=
  SortOrder.compareUnder f.binding.sort (f.orderKey a) (f.orderKey b)

end FieldEncoding

/-- The rows in the order of drawing; rows that compare equal keep their order. -/
def Encodings.drawOrder (encodings : Encodings R) (rows : List (Row R)) : List (Row R) :=
  match encodings.field? .order with
  | none => rows
  | some f => rows.mergeSort fun a b => f.compareRows a b != .gt

end Charting
