import Charting.Proofs.Data.Grouping
import Charting.Proofs.Data.Order
import Mathlib.Data.List.Dedup

/-!
# Distinct values in order

The values of a discrete domain and of the cells of a grid are the distinct values of a field, put in
order.  `IsArranged` says what comes of this without sorting or searching: one value for each key,
the first that has it, in an order that is told by the positions of keys and by the natural order
(`SortOrder.Precedes`).  A list that is given as an order may hold values that do not occur, or the
same value twice (`pairwise_explicitOrder`).
-/

namespace Charting

variable {R : Type} [Scalar R]

/-- The position of the first value with the same key, or the length of the list if there is none. -/
def Value.firstIndex (values : List (Value R)) (v : Value R) : Nat :=
  values.findIdx fun w ↦ w.key = v.key

/-- What comes before what among the distinct values of a list.  Without a sort it is what appears
first.  Of an order that is given, listed values come first by their first positions in it, and the
others follow as they appear. -/
def SortOrder.Precedes (sort : Option (SortOrder R)) (values : List (Value R)) (v w : Value R) :
    Prop :=
  match sort with
  | none => v.firstIndex values < w.firstIndex values
  | some .ascending => v.naturalOrder w = .lt
  | some .descending => w.naturalOrder v = .lt
  | some (.explicit order) => v.firstIndex order < w.firstIndex order ∨
      v.firstIndex order = w.firstIndex order ∧ v.firstIndex values < w.firstIndex values

/-- A list holds the distinct values of another one in the order of a sort. -/
structure IsArranged (sort : Option (SortOrder R)) (values result : List (Value R)) : Prop where
  /-- No two values have the same key. -/
  nodup : (result.map Value.key).Nodup
  /-- No key is lost and none is new. -/
  mem_keys_iff {key : Value R} : key ∈ result.map Value.key ↔ key ∈ values.map Value.key
  /-- Each value is the first one with its key. -/
  isFirst {v : Value R} : v ∈ result → values.find? (fun w ↦ w.key = v.key) = some v
  /-- The values are in order. -/
  pairwise : result.Pairwise (SortOrder.Precedes sort values)

namespace IsArranged

variable {sort sort' : Option (SortOrder R)} {values result result' : List (Value R)}

/-- The same values are in another order. -/
theorem of_perm (h : IsArranged sort values result) (hperm : result'.Perm result)
    (hpairwise : result'.Pairwise (SortOrder.Precedes sort' values)) :
    IsArranged sort' values result' where
  nodup := (hperm.map Value.key).nodup_iff.mpr h.nodup
  mem_keys_iff := (hperm.map Value.key).mem_iff.trans h.mem_keys_iff
  isFirst hv := h.isFirst (hperm.mem_iff.mp hv)
  pairwise := hpairwise

/-- There are as many values as there are different keys. -/
theorem length_eq (h : IsArranged sort values result) :
    result.length = (values.map Value.key).dedup.length := by
  have hperm : (result.map Value.key).Perm (values.map Value.key).dedup := by
    rw [List.perm_ext_iff_of_nodup h.nodup (List.nodup_dedup _)]
    intro key
    rw [h.mem_keys_iff, List.mem_dedup]
  rw [← hperm.length_eq, List.length_map]

end IsArranged

/-! ## First appearance -/

/-- Distinct values that stay as they are. -/
theorem isArranged_distinctBy (values : List (Value R)) :
    IsArranged none values (distinctBy Value.key values) where
  nodup := nodup_map_distinctBy Value.key values
  mem_keys_iff := mem_map_distinctBy
  isFirst := find?_of_mem_distinctBy
  pairwise := pairwise_distinctBy Value.key values

/-! ## Orders that are given -/

/-- A value that is taken out has the key, and the others keep their order. -/
theorem takeKey?_eq_some {key v : Value R} {values rest : List (Value R)}
    (h : takeKey? key values = some (v, rest)) : v.key = key ∧ rest.Sublist values := by
  induction values generalizing v rest with
  | nil => cases h
  | cons w values ih =>
      rw [takeKey?] at h
      split at h
      case isTrue hw =>
        obtain ⟨rfl, rfl⟩ := Prod.mk.inj (Option.some.inj h)
        exact ⟨hw, List.sublist_cons_self _ _⟩
      case isFalse =>
        obtain ⟨⟨v', rest'⟩, hfound, h⟩ := Option.map_eq_some_iff.mp h
        obtain ⟨rfl, rfl⟩ := Prod.mk.inj h
        exact ⟨(ih hfound).1, (ih hfound).2.cons_cons w⟩

theorem takeKey?_eq_none_iff {key : Value R} {values : List (Value R)} :
    takeKey? key values = none ↔ ∀ v ∈ values, v.key ≠ key := by
  induction values with
  | nil => simp [takeKey?]
  | cons w values ih =>
      rw [takeKey?, List.forall_mem_cons]
      by_cases hw : w.key = key
      · simp [hw]
      · simp [hw, ih]

namespace Value

variable {want v : Value R}

theorem firstIndex_cons_of_eq (h : v.key = want.key) (order : List (Value R)) :
    v.firstIndex (want :: order) = 0 := by
  simp [firstIndex, List.findIdx_cons, h]

theorem firstIndex_cons_of_ne (h : v.key ≠ want.key) (order : List (Value R)) :
    v.firstIndex (want :: order) = v.firstIndex order + 1 := by
  simp [firstIndex, List.findIdx_cons, Ne.symm h]

end Value

/-- One more value at the front of an order makes no difference to other values. -/
theorem SortOrder.precedes_cons_iff {want v w : Value R} (hv : v.key ≠ want.key)
    (hw : w.key ≠ want.key) (order values : List (Value R)) :
    Precedes (some (.explicit (want :: order))) values v w ↔
      Precedes (some (.explicit order)) values v w := by
  simp only [Precedes, Value.firstIndex_cons_of_ne hv, Value.firstIndex_cons_of_ne hw,
    Nat.add_lt_add_iff_right, Nat.add_right_cancel_iff]

/-- Listed values come first, in the order of the list, and the others stay as they are. -/
theorem pairwise_explicitOrder {order values observed : List (Value R)}
    (distinct : (observed.map Value.key).Nodup)
    (h : observed.Pairwise (SortOrder.Precedes none values)) :
    (explicitOrder observed order).Pairwise
      (SortOrder.Precedes (some (.explicit order)) values) := by
  induction order generalizing observed with
  | nil => exact h.imp fun hvw ↦ .inr ⟨rfl, hvw⟩
  | cons want order ih =>
      have hothers : ∀ {vs : List (Value R)}, (∀ v ∈ vs, v.key ≠ want.key) →
          vs.Pairwise (SortOrder.Precedes (some (.explicit order)) values) →
          vs.Pairwise (SortOrder.Precedes (some (.explicit (want :: order))) values) :=
        fun hne hvs ↦ hvs.imp_of_mem fun {v w} hv hw hvw ↦
          (SortOrder.precedes_cons_iff (hne v hv) (hne w hw) order values).mpr hvw
      rw [explicitOrder]
      cases hfound : takeKey? want.key observed with
      | none =>
          refine hothers (fun v hv ↦ ?_) (ih distinct h)
          exact takeKey?_eq_none_iff.mp hfound v ((explicitOrder_perm _ _).subset hv)
      | some found =>
          obtain ⟨v, rest⟩ := found
          obtain ⟨hkey, hrest⟩ := takeKey?_eq_some hfound
          have hnodup : ((v :: rest).map Value.key).Nodup :=
            ((takeKey?_perm hfound).map Value.key).nodup_iff.mpr distinct
          obtain ⟨hfresh, hnodup⟩ := List.nodup_cons.mp hnodup
          -- The value that was taken out was the only one with its key.
          have hne : ∀ w ∈ explicitOrder rest order, w.key ≠ want.key := by
            intro w hw heq
            refine hfresh ?_
            rw [hkey, ← heq]
            exact List.mem_map_of_mem ((explicitOrder_perm _ _).subset hw)
          refine List.pairwise_cons.mpr ⟨fun w hw ↦ .inl ?_,
            hothers hne (ih hnodup (h.sublist hrest))⟩
          rw [Value.firstIndex_cons_of_eq hkey, Value.firstIndex_cons_of_ne (hne w hw)]
          exact Nat.succ_pos _

/-! ## All orders -/

/-- Distinct values that are put in order. -/
theorem SortOrder.isArranged_apply [Std.TransCmp (Scalar.totalOrder : R → R → Ordering)]
    [Std.LawfulEqCmp (Scalar.totalOrder : R → R → Ordering)] (sort : SortOrder R)
    (values : List (Value R)) :
    IsArranged (some sort) values (sort.apply (distinctBy Value.key values)) := by
  have h := isArranged_distinctBy values
  have distinct : (distinctBy Value.key values).Nodup := .of_map Value.key h.nodup
  refine h.of_perm (sort.apply_perm _) ?_
  cases sort with
  | ascending =>
      exact @pairwise_lt_sort _ Value.naturalOrder _ _ _ distinct
  | descending =>
      have : Std.TransCmp fun v w : Value R ↦ w.naturalOrder v := Std.TransCmp.opposite
      have : Std.LawfulEqCmp fun v w : Value R ↦ w.naturalOrder v := Std.LawfulEqCmp.opposite
      exact @pairwise_lt_sort _ (fun v w : Value R ↦ w.naturalOrder v) _ _ _ distinct
  | explicit order => exact pairwise_explicitOrder h.nodup h.pairwise

end Charting
