import Mathlib.Data.List.Basic
import Mathlib.Order.Compare
import Charting.Data.Value
import Charting.Numeric.Double
import Charting.Numeric.Exact
import Charting.Scale.Domain

/-!
# Orders of values

`Value.naturalOrder` is a total preorder whenever the total order of numbers is one, as it is for
doubles and for rationals, and for both of them no two values have the same place in it.  What is
sorted by a total preorder can be split before or after it is sorted (`filter_mergeSort`): this is
what makes parts of a chart come in the same order as the whole, and what keeps elements in their
own order where the preorder has none for them (`filter_sort_eq`).
An order that is given may be any list, but it loses no values either (`SortOrder.apply_perm`).
-/

namespace Charting

/-! ## Sorting parts of a list -/

/-- Two ways to cut a list into elements that pass a test and elements that do not are the same. -/
private theorem append_inj_of_test {α : Type} {q : α → Bool} {xs ys xs' ys' : List α}
    (h : xs ++ ys = xs' ++ ys') (hxs : ∀ x ∈ xs, q x) (hys : ∀ y ∈ ys, !q y)
    (hxs' : ∀ x ∈ xs', q x) (hys' : ∀ y ∈ ys', !q y) : xs = xs' ∧ ys = ys' := by
  have hfront : ∀ {us vs : List α}, (∀ u ∈ us, q u) → (∀ v ∈ vs, !q v) →
      (us ++ vs).filter q = us := by
    intro us vs hus hvs
    rw [List.filter_append, List.filter_eq_self.mpr hus, List.filter_eq_nil_iff.mpr,
      List.append_nil]
    intro v hv
    simpa using hvs v hv
  obtain rfl : xs = xs' := by rw [← hfront hxs hys, h, hfront hxs' hys']
  exact ⟨rfl, List.append_cancel_left h⟩

/-- The elements of a sorted list that pass a test are these elements, sorted. -/
theorem filter_mergeSort {α : Type} {le : α → α → Bool}
    (trans : ∀ a b c, le a b → le b c → le a c) (total : ∀ a b, le a b || le b a) (p : α → Bool)
    (xs : List α) : (xs.mergeSort le).filter p = (xs.filter p).mergeSort le := by
  induction xs with
  | nil => simp
  | cons x xs ih =>
      obtain ⟨before, after, hsorted, hrest, hbefore⟩ := List.mergeSort_cons trans total x xs
      rw [hsorted, List.filter_append]
      by_cases hx : p x = true
      · obtain ⟨before', after', hsorted', hrest', hbefore'⟩ :=
          List.mergeSort_cons trans total x (xs.filter p)
        have hafter : ∀ y ∈ after, le x y := by
          have hpairwise := List.pairwise_mergeSort trans total (x :: xs)
          rw [hsorted] at hpairwise
          exact (List.pairwise_cons.mp (List.pairwise_append.mp hpairwise).2.1).1
        have hafter' : ∀ y ∈ after', le x y := by
          have hpairwise := List.pairwise_mergeSort trans total (x :: xs.filter p)
          rw [hsorted'] at hpairwise
          exact (List.pairwise_cons.mp (List.pairwise_append.mp hpairwise).2.1).1
        -- Both lists are cut at the first element that does not come before `x`.
        have hcut : before.filter p ++ after.filter p = before' ++ after' := by
          rw [← List.filter_append, ← hrest, ih, hrest']
        obtain ⟨hfront, hback⟩ := append_inj_of_test (q := fun y ↦ !le x y) hcut
          (fun y hy ↦ hbefore y (List.mem_filter.mp hy).1)
          (fun y hy ↦ by simpa using hafter y (List.mem_filter.mp hy).1) hbefore'
          (fun y hy ↦ by simpa using hafter' y hy)
        rw [List.filter_cons_of_pos hx, List.filter_cons_of_pos hx, hsorted', hfront, hback]
      · rw [List.filter_cons_of_neg hx, List.filter_cons_of_neg hx, ← List.filter_append,
          ← hrest, ih]

/-! ## Sorting by a comparison -/

section Comparison

variable {α : Type} {cmp : α → α → Ordering} [Std.TransCmp cmp]

private theorem bne_gt_eq_isLE (o : Ordering) : (o != .gt) = o.isLE := by
  cases o <;> rfl

theorem notAfter_trans (a b c : α) (hab : cmp a b != .gt) (hbc : cmp b c != .gt) :
    cmp a c != .gt := by
  rw [bne_gt_eq_isLE] at hab hbc ⊢
  exact Std.TransCmp.isLE_trans hab hbc

theorem notAfter_total (a b : α) : (cmp a b != .gt || cmp b a != .gt) = true := by
  have hswap : cmp b a = (cmp a b).swap := Std.OrientedCmp.eq_swap
  rw [hswap]
  cases cmp a b <;> rfl

/-- No element comes after one that it is sorted before. -/
theorem pairwise_sort (xs : List α) :
    (xs.mergeSort fun a b ↦ cmp a b != .gt).Pairwise fun a b ↦ cmp a b ≠ .gt :=
  (List.pairwise_mergeSort notAfter_trans notAfter_total xs).imp bne_iff_ne.mp

/-- Different elements are sorted strictly. -/
theorem pairwise_lt_sort [Std.LawfulEqCmp cmp] {xs : List α} (distinct : xs.Nodup) :
    (xs.mergeSort fun a b ↦ cmp a b != .gt).Pairwise fun a b ↦ cmp a b = .lt := by
  have hnodup := (List.mergeSort_perm xs fun a b ↦ cmp a b != .gt).nodup_iff.mpr distinct
  refine ((pairwise_sort xs).and hnodup).imp fun {a b} hab ↦ ?_
  cases hcmp : cmp a b with
  | lt => rfl
  | eq => exact absurd (Std.LawfulEqCmp.eq_of_compare hcmp) hab.2
  | gt => exact absurd hcmp hab.1

/-- Elements none of which comes after another one keep their order. -/
theorem filter_sort_eq {p : α → Bool} (hp : ∀ a b, p a → p b → cmp a b ≠ .gt) (xs : List α) :
    (xs.mergeSort fun a b ↦ cmp a b != .gt).filter p = xs.filter p := by
  rw [filter_mergeSort notAfter_trans notAfter_total]
  refine List.mergeSort_of_pairwise (List.pairwise_of_forall_mem_list fun a ha b hb ↦ ?_)
  exact bne_iff_ne.mpr (hp a b (List.mem_filter.mp ha).2 (List.mem_filter.mp hb).2)

/-- Elements that are in the same place as a given one keep their order. -/
theorem filter_eq_sort (a : α) (xs : List α) :
    (xs.mergeSort fun b c ↦ cmp b c != .gt).filter (fun b ↦ cmp a b = .eq) =
      xs.filter fun b ↦ cmp a b = .eq := by
  refine filter_sort_eq (fun b c hb hc ↦ ?_) xs
  have hba : cmp b a = .eq := Std.OrientedCmp.eq_comm.mp (of_decide_eq_true hb)
  have hbc : cmp b c = .eq := Std.TransCmp.eq_trans hba (of_decide_eq_true hc)
  simp [hbc]

end Comparison

/-! ## Numbers -/

/-- Doubles are in the order of their bit patterns. -/
instance : Std.TransCmp (Scalar.totalOrder : Float → Float → Ordering) :=
  inferInstanceAs (Std.TransCmp (compareOn Double.orderKey))

/-- No two doubles have the same place in the order. -/
theorem Double.orderKey_injective : Function.Injective Double.orderKey := by
  intro a b h
  have hbits : a.toBits.toNat = b.toBits.toNat := by
    have ha := a.toBits.toNat_lt
    have hb := b.toBits.toNat_lt
    have hhalf : twoPow 63 = 9223372036854775808 := rfl
    unfold orderKey maxInt64 at h
    simp only [hhalf] at h
    split at h <;> split at h <;> omega
  obtain ⟨⟨x, hx⟩⟩ := a
  obtain ⟨⟨y, hy⟩⟩ := b
  obtain rfl : x = y := UInt64.toNat_inj.mp hbits
  rfl

instance : Std.LawfulEqCmp (Scalar.totalOrder : Float → Float → Ordering) where
  compare_self := Std.ReflCmp.compare_self
  eq_of_compare h := Double.orderKey_injective (Std.LawfulEqOrd.eq_of_compare h)

/-- Rationals are in their usual order. -/
theorem isLE_totalOrder_iff {a b : Rat} : (Scalar.totalOrder a b).isLE = true ↔ a ≤ b := by
  change (if a < b then Ordering.lt else if b < a then Ordering.gt else Ordering.eq).isLE = true ↔ _
  rcases lt_trichotomy a b with h | rfl | h
  · simp [h, h.le]
  · simp
  · simp [h, h.not_gt, h.not_ge]

instance : Std.TransCmp (Scalar.totalOrder : Rat → Rat → Ordering) where
  eq_swap := by
    intro a b
    change (if a < b then Ordering.lt else if b < a then Ordering.gt else Ordering.eq) =
      (if b < a then Ordering.lt else if a < b then Ordering.gt else Ordering.eq).swap
    rcases lt_trichotomy a b with h | rfl | h
    · simp [h, h.not_gt]
    · simp
    · simp [h, h.not_gt]
  isLE_trans hab hbc :=
    isLE_totalOrder_iff.mpr ((isLE_totalOrder_iff.mp hab).trans (isLE_totalOrder_iff.mp hbc))

instance : Std.LawfulEqCmp (Scalar.totalOrder : Rat → Rat → Ordering) where
  compare_self := Std.ReflCmp.compare_self
  eq_of_compare {a b} h := by
    have hab : a ≤ b := isLE_totalOrder_iff.mp (h ▸ rfl)
    have hswap : Scalar.totalOrder b a = (Scalar.totalOrder a b).swap := Std.OrientedCmp.eq_swap
    have hba : b ≤ a := isLE_totalOrder_iff.mp (by rw [hswap, h]; rfl)
    exact le_antisymm hab hba

/-! ## Values -/

namespace Value

variable {R : Type} [Scalar R]

/-- Values that count as the same are missing together. -/
theorem isNull_key (v : Value R) : v.key.isNull = v.isNull := by
  cases v <;> rfl

theorem isNull_eq_of_key_eq {v w : Value R} (h : v.key = w.key) : v.isNull = w.isNull := by
  rw [← isNull_key, h, isNull_key]

theorem naturalOrder_of_rank_ne {v w : Value R} (h : v.rank ≠ w.rank) :
    v.naturalOrder w = compare v.rank w.rank := by
  cases v <;> cases w <;> first | rfl | exact absurd rfl h

/-- A value that may come first is not of a later kind. -/
theorem rank_le_of_isLE {v w : Value R} (h : (v.naturalOrder w).isLE = true) : v.rank ≤ w.rank := by
  by_cases hrank : v.rank = w.rank
  · exact hrank.le
  · rw [naturalOrder_of_rank_ne hrank] at h
    exact Nat.isLE_compare.mp h

variable [Std.TransCmp (Scalar.totalOrder : R → R → Ordering)]

/-- The natural order is a total preorder if the order of numbers is one. -/
instance : Std.TransCmp (naturalOrder : Value R → Value R → Ordering) where
  eq_swap {v w} := by
    cases v with
    | null => cases w <;> rfl
    | number x =>
        cases w with
        | number y =>
            change Scalar.totalOrder x y = (Scalar.totalOrder y x).swap
            exact Std.OrientedCmp.eq_swap
        | _ => rfl
    | string s =>
        cases w with
        | string t =>
            change compare s t = (compare t s).swap
            exact Std.OrientedCmp.eq_swap
        | _ => rfl
    | time s =>
        cases w with
        | time t =>
            change compare s t = (compare t s).swap
            exact Std.OrientedCmp.eq_swap
        | _ => rfl
  isLE_trans {v w u} hvw hwu := by
    have hfirst := rank_le_of_isLE hvw
    have hsecond := rank_le_of_isLE hwu
    by_cases hrank : v.rank = u.rank
    · -- The value in the middle is of the same kind.
      have hmiddle : v.rank = w.rank := by omega
      cases v with
      | null => cases u <;> first | rfl | cases hrank
      | number x =>
          cases u <;> cases hrank
          cases w <;> cases hmiddle
          exact @Std.TransCmp.isLE_trans R Scalar.totalOrder _ _ _ _ hvw hwu
      | string s =>
          cases u <;> cases hrank
          cases w <;> cases hmiddle
          exact Std.TransOrd.isLE_trans hvw hwu
      | time s =>
          cases u <;> cases hrank
          cases w <;> cases hmiddle
          exact Std.TransOrd.isLE_trans hvw hwu
    · rw [naturalOrder_of_rank_ne hrank]
      exact Nat.isLE_compare.mpr (by omega)

/-- Only a value itself has its place in the natural order if this holds of numbers. -/
instance [Std.LawfulEqCmp (Scalar.totalOrder : R → R → Ordering)] :
    Std.LawfulEqCmp (naturalOrder : Value R → Value R → Ordering) where
  compare_self := Std.ReflCmp.compare_self
  eq_of_compare {v w} h := by
    have hrank : v.rank = w.rank := by
      by_contra hne
      rw [naturalOrder_of_rank_ne hne] at h
      exact hne (Std.LawfulEqOrd.eq_of_compare h)
    cases v with
    | null => cases w <;> first | rfl | cases hrank
    | number x =>
        cases w with
        | number y =>
            have hxy : Scalar.totalOrder x y = .eq := h
            exact congrArg number (Std.LawfulEqCmp.eq_of_compare hxy)
        | _ => cases hrank
    | string s =>
        cases w <;> cases hrank
        exact congrArg string (Std.LawfulEqOrd.eq_of_compare h)
    | time s =>
        cases w <;> cases hrank
        exact congrArg time (Std.LawfulEqOrd.eq_of_compare h)

end Value

/-! ## Values in a given order -/

section Perm

variable {R : Type} [Scalar R]

/-- A value that is taken out is one of the values, and the others are left. -/
theorem takeKey?_perm {key v : Value R} {values rest : List (Value R)}
    (h : takeKey? key values = some (v, rest)) : (v :: rest).Perm values := by
  induction values generalizing v rest with
  | nil => cases h
  | cons w values ih =>
      rw [takeKey?] at h
      split at h
      · obtain ⟨rfl, rfl⟩ := Prod.mk.inj (Option.some.inj h)
        exact .refl _
      · obtain ⟨⟨v', rest'⟩, hfound, h⟩ := Option.map_eq_some_iff.mp h
        obtain ⟨rfl, rfl⟩ := Prod.mk.inj h
        exact (List.Perm.swap w v' rest').trans ((ih hfound).cons w)

/-- Values in the order of a list are the same values. -/
theorem explicitOrder_perm (observed order : List (Value R)) :
    (explicitOrder observed order).Perm observed := by
  induction order generalizing observed with
  | nil => exact .refl observed
  | cons want order ih =>
      rw [explicitOrder]
      cases hfound : takeKey? want.key observed with
      | none => exact ih observed
      | some found => exact ((ih found.2).cons found.1).trans (takeKey?_perm hfound)

/-- Values in any order are the same values. -/
theorem SortOrder.apply_perm (sort : SortOrder R) (values : List (Value R)) :
    (sort.apply values).Perm values := by
  cases sort with
  | ascending => exact List.mergeSort_perm values _
  | descending => exact List.mergeSort_perm values _
  | explicit order => exact explicitOrder_perm values order

end Perm

end Charting
