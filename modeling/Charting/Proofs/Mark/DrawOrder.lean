import Mathlib.Data.List.Permutation
import Charting.Numeric.Exact
import Charting.Proofs.Data.Arrangement
import Charting.Proofs.Mark.Drawing
import Charting.Proofs.Mark.Order

/-!
# Rows in the order of drawing

The order of drawing is a stable sort by a total preorder of rows (`Encodings.isDrawOrder`).  What
the preorder says is told by positions in a given order and by the natural order
(`SortOrder.MayPrecede`): a listed value comes first, by its first position, and rows without a value
come last, even if the order is reversed.
-/

namespace Charting

variable {R : Type} [Scalar R]

namespace SortOrder

/-- What may be drawn before what, of two values that are there. -/
def MayPrecede (sort : Option (SortOrder R)) (v w : Value R) : Prop :=
  match sort with
  | none | some .ascending => v.naturalOrder w ≠ .gt
  | some .descending => w.naturalOrder v ≠ .gt
  | some (.explicit order) => v.firstIndex order < w.firstIndex order ∨
      v.firstIndex order = w.firstIndex order ∧
        (v.firstIndex order < order.length ∨ v.naturalOrder w ≠ .gt)

/-- A listed value is found at its first position. -/
theorem rank?_explicit (order : List (Value R)) (v : Value R) :
    rank? (some (.explicit order)) v =
      if v.firstIndex order < order.length then some (v.firstIndex order) else none := by
  rw [rank?, List.findIdx?_eq_guard_findIdx_lt, Option.guard]
  simp only [decide_eq_true_eq]
  rfl

/-- The comparison under a sort tells what may be drawn before what. -/
theorem compareDirected_ne_gt_iff {sort : Option (SortOrder R)} {v w : Value R} :
    compareDirected sort v w ≠ .gt ↔ MayPrecede sort v w := by
  match sort with
  | none | some .ascending | some .descending => exact Iff.rfl
  | some (.explicit order) =>
      have hv : v.firstIndex order ≤ order.length := List.findIdx_le_length
      have hw : w.firstIndex order ≤ order.length := List.findIdx_le_length
      change compareListed (some (.explicit order)) v w ≠ .gt ↔ _
      rw [compareListed, rank?_explicit, rank?_explicit, MayPrecede]
      by_cases hv' : v.firstIndex order < order.length <;>
        by_cases hw' : w.firstIndex order < order.length
      · simp only [if_pos hv', if_pos hw', Nat.compare_ne_gt]
        omega
      · rw [if_pos hv', if_neg hw']
        exact iff_of_true (by simp) (.inl (by omega))
      · rw [if_neg hv', if_pos hw']
        exact iff_of_false (by simp) (by omega)
      · rw [if_neg hv', if_neg hw', or_iff_right (by omega), and_iff_right (by omega),
          or_iff_right hv']

end SortOrder

namespace FieldEncoding

variable {f : FieldEncoding R}

/-- A row without a value comes after no other row, and before those without a value only. -/
theorem compareRows_of_orderKey_eq_none {a : Row R} (ha : f.orderKey a = none) (b : Row R) :
    f.compareRows a b ≠ .gt ↔ f.orderKey b = none := by
  rw [compareRows, ha]
  cases f.orderKey b <;> simp [SortOrder.compareUnder]

end FieldEncoding

/-- Rows in the order of drawing. -/
structure IsDrawOrder (f : FieldEncoding R) (rows drawn : List (Row R)) : Prop where
  /-- The rows are the same. -/
  perm : drawn.Perm rows
  /-- No row comes after one that it compares less than. -/
  sorted : drawn.Pairwise fun a b ↦ f.compareRows a b ≠ .gt
  /-- Rows without a value come last, in their own order. -/
  missing_last : drawn = drawn.filter (fun row ↦ (f.orderKey row).isSome) ++
    rows.filter fun row ↦ (f.orderKey row).isNone
  /-- The others are in the order of their values. -/
  pairwise : drawn.Pairwise fun a b ↦ ∀ v w, f.orderKey a = some v → f.orderKey b = some w →
    SortOrder.MayPrecede f.binding.sort v w
  /-- Rows that compare equal keep their own order. -/
  stable (a : Row R) : drawn.filter (fun b ↦ f.compareRows a b = .eq) =
    rows.filter fun b ↦ f.compareRows a b = .eq

/-- A list with no element that fails a test before one that passes it is cut in two by the test. -/
theorem eq_filter_append_filter_not {α : Type} {p : α → Bool} {xs : List α}
    (h : xs.Pairwise fun x y ↦ p y → p x) : xs = xs.filter p ++ xs.filter fun x ↦ !p x := by
  induction h with
  | nil => rfl
  | @cons x xs hx _ ih =>
      cases hpx : p x with
      | true =>
          rw [List.filter_cons_of_pos hpx, List.filter_cons_of_neg (by simp [hpx]), List.cons_append,
            ← ih]
      | false =>
          have hfail : ∀ y ∈ xs, ¬p y := fun y hy hpy ↦ by simp [hx y hy hpy] at hpx
          rw [List.filter_eq_nil_iff.mpr (List.forall_mem_cons.mpr ⟨by simp [hpx], hfail⟩),
            List.nil_append, List.filter_eq_self.mpr]
          exact List.forall_mem_cons.mpr ⟨by simp [hpx], fun y hy ↦ by simpa using hfail y hy⟩

variable [Std.TransCmp (Scalar.totalOrder : R → R → Ordering)]

/-- Sorted rows are in the order of drawing. -/
theorem FieldEncoding.isDrawOrder_sort (f : FieldEncoding R) (rows : List (Row R)) :
    IsDrawOrder f rows (rows.mergeSort fun a b ↦ f.compareRows a b != .gt) := by
  have hsorted := @pairwise_sort _ f.compareRows _ rows
  refine ⟨List.mergeSort_perm rows _, hsorted, ?_, ?_, fun a ↦ filter_eq_sort a rows⟩
  · -- Rows without a value are in no order, and so they stay in their own one.
    have hmissing : (rows.mergeSort fun a b ↦ f.compareRows a b != .gt).filter
        (fun row ↦ (f.orderKey row).isNone) = rows.filter fun row ↦ (f.orderKey row).isNone := by
      refine filter_sort_eq (fun a b ha hb ↦ ?_) rows
      rw [Option.isNone_iff_eq_none] at ha hb
      exact (compareRows_of_orderKey_eq_none ha b).mpr hb
    rw [← hmissing]
    simp only [← Option.not_isSome]
    refine eq_filter_append_filter_not (hsorted.imp fun {a b} hab hb ↦ ?_)
    by_contra ha
    rw [Option.not_isSome_iff_eq_none] at ha
    rw [(compareRows_of_orderKey_eq_none ha b).mp hab] at hb
    cases hb
  · refine hsorted.imp fun {a b} hab v w hv hw ↦ ?_
    rw [compareRows, hv, hw, SortOrder.compareUnder_some] at hab
    exact SortOrder.compareDirected_ne_gt_iff.mp hab

/-- Rows are drawn in the order of the field that is bound to it, which is a total preorder of all
rows.  Without such a field they are drawn as they are. -/
theorem Encodings.isDrawOrder (encodings : Encodings R) (rows : List (Row R)) :
    (encodings.field? .order = none → encodings.drawOrder rows = rows) ∧
    ∀ f, encodings.field? .order = some f →
      (∀ a, f.compareRows a a = .eq) ∧
      (∀ a b c, f.compareRows a b ≠ .gt → f.compareRows b c ≠ .gt → f.compareRows a c ≠ .gt) ∧
      (∀ a b, f.compareRows a b ≠ .gt ∨ f.compareRows b a ≠ .gt) ∧
      IsDrawOrder f rows (encodings.drawOrder rows) := by
  refine ⟨fun h ↦ by rw [drawOrder, h], fun f h ↦ ⟨fun a ↦ Std.ReflCmp.compare_self, ?_, ?_, ?_⟩⟩
  · intro a b c hab hbc
    exact bne_iff_ne.mp (notAfter_trans a b c (bne_iff_ne.mpr hab) (bne_iff_ne.mpr hbc))
  · intro a b
    have htotal : (f.compareRows a b != .gt || f.compareRows b a != .gt) = true :=
      notAfter_total a b
    simpa using htotal
  · rw [drawOrder, h]
    exact f.isDrawOrder_sort rows

/-! ### Laps of a race -/

/-- Fast laps are drawn first. -/
def lapSpeed : FieldEncoding ℚ where
  binding := { FieldBinding.plain .order "speed" with sort := some .descending }
  column := 0
  type := .quantitative
  quantitativeKind := none
  scale := none

/-- Laps of a race, some of which have not been timed. -/
def laps : List (Row ℚ) :=
  [⟨0, [.number 31]⟩, ⟨1, [.null]⟩, ⟨2, [.number 33]⟩, ⟨3, [.number 31]⟩, ⟨4, []⟩]

theorem Encodings.isDrawOrder_laps :
    Encodings.field? [.field lapSpeed] .order = some lapSpeed ∧
      (Encodings.drawOrder [.field lapSpeed] laps).map Row.key = [2, 0, 3, 1, 4] ∧
      IsDrawOrder lapSpeed laps (Encodings.drawOrder [.field lapSpeed] laps) := by
  have hfield : Encodings.field? [.field lapSpeed] .order = some lapSpeed := rfl
  obtain ⟨-, -, -, hdrawn⟩ := (Encodings.isDrawOrder [.field lapSpeed] laps).2 lapSpeed hfield
  exact ⟨hfield, by cbv, hdrawn⟩

end Charting
