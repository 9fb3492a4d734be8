import Charting.Mark.Order
import Charting.Proofs.Data.Order

/-!
# The order of drawing

Rows are compared by the value that the order of drawing follows.  The comparison is a total
preorder, whatever the sort, and so some of the rows are drawn in the order in which they are drawn
among all rows (`Encodings.drawOrder_filter`).
-/

namespace Charting

variable {R : Type} [Scalar R] [Std.TransCmp (Scalar.totalOrder : R → R → Ordering)]

namespace SortOrder

/-- Listed values come first, and both they and the others are in a total preorder. -/
instance (sort : Option (SortOrder R)) : Std.TransCmp (compareListed sort) where
  eq_swap {v w} := by
    unfold compareListed
    cases rank? sort v with
    | none =>
        cases rank? sort w with
        | none =>
            change v.naturalOrder w = (w.naturalOrder v).swap
            exact Std.OrientedCmp.eq_swap
        | some j => rfl
    | some i =>
        cases rank? sort w with
        | none => rfl
        | some j =>
            change compare i j = (compare j i).swap
            exact Std.OrientedCmp.eq_swap
  isLE_trans {u v w} huv hvw := by
    unfold compareListed at huv hvw ⊢
    cases hu : rank? sort u <;> cases hv : rank? sort v <;> cases hw : rank? sort w <;>
      simp only [hu, hv, hw] at huv hvw ⊢
    · exact Std.TransCmp.isLE_trans huv hvw
    · cases hvw
    · cases huv
    · cases huv
    · rfl
    · cases hvw
    · rfl
    · exact Std.TransOrd.isLE_trans huv hvw

/-- The order of two values that are there, in the direction of the sort. -/
def compareDirected (sort : Option (SortOrder R)) (v w : Value R) : Ordering :=
  match sort with
  | some .descending => compareListed sort w v
  | _ => compareListed sort v w

/-- A total preorder can be taken in either direction. -/
instance (sort : Option (SortOrder R)) : Std.TransCmp (compareDirected sort) := by
  unfold compareDirected
  split
  · exact Std.TransCmp.opposite
  · infer_instance

/-- Values that are there come before missing ones, in the direction of the sort. -/
theorem compareUnder_some (sort : Option (SortOrder R)) (v w : Value R) :
    compareUnder sort (some v) (some w) = compareDirected sort v w := by
  match sort with
  | some .descending => exact Std.OrientedCmp.eq_swap.symm
  | none | some .ascending | some (.explicit _) => rfl

/-- Missing values come last in a total preorder. -/
instance (sort : Option (SortOrder R)) : Std.TransCmp (compareUnder sort) where
  eq_swap {v w} := by
    cases v <;> cases w
    · rfl
    · rfl
    · rfl
    · rw [compareUnder_some, compareUnder_some]
      exact Std.OrientedCmp.eq_swap
  isLE_trans {u v w} huv hvw := by
    cases u with
    | none =>
        cases v with
        | none => exact hvw
        | some v => cases huv
    | some u =>
        cases w with
        | none => rfl
        | some w =>
            cases v with
            | none => cases hvw
            | some v =>
                rw [compareUnder_some] at huv hvw ⊢
                exact Std.TransCmp.isLE_trans huv hvw

end SortOrder

/-- Rows are in a total preorder. -/
instance (f : FieldEncoding R) : Std.TransCmp f.compareRows where
  eq_swap {a b} := by
    change SortOrder.compareUnder _ _ _ = (SortOrder.compareUnder _ _ _).swap
    exact Std.OrientedCmp.eq_swap
  isLE_trans {a b c} hab hbc := by
    unfold FieldEncoding.compareRows at hab hbc ⊢
    exact Std.TransCmp.isLE_trans hab hbc

/-- Some of the rows are drawn in the order in which they are drawn among all rows. -/
theorem Encodings.drawOrder_filter (encodings : Encodings R) (p : Row R → Bool)
    (rows : List (Row R)) :
    encodings.drawOrder (rows.filter p) = (encodings.drawOrder rows).filter p := by
  unfold drawOrder
  cases encodings.field? .order with
  | none => rfl
  | some f => exact (filter_mergeSort notAfter_trans notAfter_total p rows).symm

end Charting
