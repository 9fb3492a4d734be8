import Mathlib.Data.List.Nodup
import Charting.Proofs.Success
import Charting.Scene.Compile

/-!
# Selections of rows

Filters keep some rows of a dataset in order and with their keys, and leave everything else alone.
Where keys tell rows apart, such a selection is known from its keys: this is what makes it safe to
compare keys only when a chart is asked whether other rows pass its filters.
-/

namespace Charting

variable {R : Type}

/-- The rows of one dataset are some of the rows of another, in the same order. -/
structure Dataset.IsSelection (part data : Dataset R) : Prop where
  /-- The columns are the same. -/
  fields_eq : part.fields = data.fields
  /-- The rows come from the other dataset. -/
  rows_sublist : part.rows.Sublist data.rows
  /-- The key of the next row is the same. -/
  nextKey_eq : part.nextKey = data.nextKey

namespace Dataset.IsSelection

theorem refl (data : Dataset R) : data.IsSelection data := ⟨rfl, .refl _, rfl⟩

theorem trans {a b c : Dataset R} (hab : a.IsSelection b) (hbc : b.IsSelection c) :
    a.IsSelection c :=
  ⟨hab.fields_eq.trans hbc.fields_eq, hab.rows_sublist.trans hbc.rows_sublist,
    hab.nextKey_eq.trans hbc.nextKey_eq⟩

end Dataset.IsSelection

/-! ## Selections are known from their keys -/

/-- Two parts of a list whose elements are told apart by `f` are equal if `f` agrees on them. -/
theorem eq_of_sublist_of_map_eq {α κ : Type} {f : α → κ} {xs ys all : List α}
    (hnodup : (all.map f).Nodup) (hxs : xs.Sublist all) (hys : ys.Sublist all)
    (h : xs.map f = ys.map f) : xs = ys := by
  have hinj : ∀ x ∈ all, ∀ y ∈ all, f x = f y → x = y := fun x hx y hy hxy ↦
    List.inj_on_of_nodup_map hnodup hx hy hxy
  have hlen : xs.length = ys.length := by simpa using congrArg List.length h
  refine List.ext_getElem hlen fun i hi hi' ↦ ?_
  refine hinj _ (hxs.subset (xs.getElem_mem hi)) _ (hys.subset (ys.getElem_mem hi')) ?_
  have hget : (xs.map f)[i]? = (ys.map f)[i]? := by rw [h]
  simpa [hi, hi'] using hget

/-- Two selections of a dataset with the same keys are the same, if no key occurs twice. -/
theorem Dataset.IsSelection.eq_of_keys_eq {a b data : Dataset R} (distinct : data.keys.Nodup)
    (ha : a.IsSelection data) (hb : b.IsSelection data) (h : a.keys = b.keys) : a = b := by
  obtain ⟨fields, rows, nextKey⟩ := a
  obtain ⟨fields', rows', nextKey'⟩ := b
  obtain rfl : fields = fields' := ha.fields_eq.trans hb.fields_eq.symm
  obtain rfl : nextKey = nextKey' := ha.nextKey_eq.trans hb.nextKey_eq.symm
  exact congrArg (Dataset.mk fields · nextKey)
    (eq_of_sublist_of_map_eq distinct ha.rows_sublist hb.rows_sublist h)

/-! ## Filters select rows -/

/-- Reading a list at all its positions. -/
theorem filterMap_getElem?_range {α : Type} (xs : List α) :
    (List.range xs.length).filterMap (xs[·]?) = xs := by
  induction xs with
  | nil => rfl
  | cons x xs ih =>
      rw [List.length_cons, List.range_succ_eq_map, List.filterMap_cons, List.filterMap_map]
      exact congrArg (x :: ·) ih

/-- Rows that are selected by a test of the row at each position are the rows that pass it. -/
theorem Dataset.rows_select_filter (data : Dataset R) (p : Row R → Bool) :
    (data.select (data.indices.filter fun i ↦ data.rows[i]?.any p)).rows = data.rows.filter p := by
  change (data.indices.filter _).filterMap (data.rows[·]?) = _
  conv_rhs => rw [← filterMap_getElem?_range data.rows]
  rw [List.filterMap_filter, List.filter_filterMap]
  refine List.filterMap_congr fun i _ ↦ ?_
  cases data.rows[i]? with
  | none => rfl
  | some row => cases hrow : p row <;> simp [hrow, Option.filter]

/-- Rows at increasing positions are a selection. -/
theorem Dataset.select_isSelection {data : Dataset R} {positions : List Nat}
    (h : positions.Sublist data.indices) : (data.select positions).IsSelection data :=
  ⟨rfl, filterMap_getElem?_range data.rows ▸ h.filterMap _, rfl⟩

variable [Scalar R]

/-- A filter succeeds if its test can be carried out on every row, and selects the rows that
pass it. -/
theorem Dataset.filter_ok_iff {data part : Dataset R} {p : Predicate R} {params : ParamLookup R} :
    data.filter p params = .ok part ↔
      (∀ row ∈ data.indices, ∃ b, p.eval data row params = .ok b) ∧
        part = data.select (data.indices.filter fun row ↦ passes (p.eval data row params)) := by
  rw [Dataset.filter, bind_ok_iff]
  constructor
  · rintro ⟨kept, hkept, h⟩
    obtain ⟨hrows, rfl⟩ := filterM_ok_iff.mp hkept
    exact ⟨hrows, (Except.ok.inj h).symm⟩
  · rintro ⟨hrows, rfl⟩
    exact ⟨_, filterM_ok_iff.mpr ⟨hrows, rfl⟩, rfl⟩

/-- A filter fails only with an error of its test on a row. -/
theorem Dataset.exists_eval_error_of_filter_error {data : Dataset R} {p : Predicate R}
    {params : ParamLookup R} {e : DataError} (h : data.filter p params = .error e) :
    ∃ i ∈ data.indices, p.eval data i params = .error e := by
  rw [Dataset.filter, bind_error_iff] at h
  rcases h with h | ⟨kept, -, h⟩
  · exact exists_error_of_filterM_error h
  · cases h

theorem Dataset.filter_isSelection {data part : Dataset R} {p : Predicate R}
    {params : ParamLookup R} (h : data.filter p params = .ok part) : part.IsSelection data := by
  obtain ⟨-, rfl⟩ := Dataset.filter_ok_iff.mp h
  exact Dataset.select_isSelection List.filter_sublist

/-- The filters of a chart select rows, one after another. -/
theorem ChartSpec.filterData_isSelection {spec : ChartSpec R} {data part : Dataset R}
    {params : ParamLookup R} (h : spec.filterData data params = .ok part) :
    part.IsSelection data := by
  refine foldlM_ok_induction (P := (·.IsSelection data)) (fun a p b ha hb ↦ ?_) (.refl data) h
  exact (Dataset.filter_isSelection (mapError_ok_iff.mp hb)).trans ha

end Charting
