import Charting.Numeric.Exact
import Charting.Proofs.Data.Selection

/-!
# Filters one after another

A test looks at the names of the columns and at one row, and at nothing else of the data
(`Predicate.eval_congr`), so that it does not matter which rows are left when it is run.  Hence it
is the same to filter by some tests one after another and to filter once by their conjunction
(`ChartSpec.filterData_ok_iff`): both run a test on a row exactly if the row passes all tests before
it, even though they do so in another order.
-/

namespace Charting

variable {R : Type} [Scalar R]

namespace Predicate

/-! ## What a test looks at -/

section Congruence

variable {data data' : Dataset R} {i j : Nat} (params : ParamLookup R)

omit [Scalar R] in
/-- A cell is found by the names of the columns in its row. -/
theorem cellOf_congr (hfields : data.fields = data'.fields) (hrow : data.rows[i]? = data'.rows[j]?)
    (field : String) : cellOf data i field = cellOf data' j field := by
  simp only [cellOf, Dataset.column, Dataset.columnIndex?, Dataset.value?, hfields, hrow]

mutual

/-- A test has the same outcome on the same row of datasets with the same columns. -/
theorem eval_congr (hfields : data.fields = data'.fields) (hrow : data.rows[i]? = data'.rows[j]?)
    (p : Predicate R) : p.eval data i params = p.eval data' j params := by
  cases p with
  | compare field op rhs => rw [eval, eval, cellOf_congr hfields hrow]
  | oneOf field values => rw [eval, eval, cellOf_congr hfields hrow]
  | range field min max => rw [eval, eval, cellOf_congr hfields hrow]
  | not p => rw [eval, eval, eval_congr hfields hrow p]
  | and all => rw [eval, eval, evalAll_congr hfields hrow all]

/-- Tests have the same outcome on the same row of datasets with the same columns. -/
theorem evalAll_congr (hfields : data.fields = data'.fields)
    (hrow : data.rows[i]? = data'.rows[j]?) (all : List (Predicate R)) :
    evalAll data i params all = evalAll data' j params all := by
  cases all with
  | nil => rfl
  | cons p rest =>
      rw [evalAll, evalAll, eval_congr hfields hrow p, evalAll_congr hfields hrow rest]

end

end Congruence

/-- The outcome of a test on a row by itself. -/
def evalRow (fields : List Field) (params : ParamLookup R) (p : Predicate R) (row : Row R) :
    Except DataError Bool :=
  p.eval ⟨fields, [row], 0⟩ 0 params

/-- The outcome of a test on a row of a dataset is its outcome on this row by itself. -/
theorem eval_eq_evalRow {data : Dataset R} {i : Nat} {row : Row R} (hrow : data.rows[i]? = some row)
    (params : ParamLookup R) (p : Predicate R) :
    p.eval data i params = p.evalRow data.fields params row := by
  have hfields : data.fields = (Dataset.mk data.fields [row] 0).fields := rfl
  have hsame : data.rows[i]? = (Dataset.mk data.fields [row] 0).rows[0]? := hrow
  exact eval_congr params hfields hsame p

section Conjunctions

variable {fields : List Field} {params : ParamLookup R} {p : Predicate R} {ps : List (Predicate R)}
  {row : Row R}

theorem evalRow_and_nil : (and []).evalRow fields params row = .ok true := rfl

/-- A conjunction fails on a row that fails its first test, and goes on with the others on a row
that passes it. -/
theorem evalRow_and_cons :
    (and (p :: ps)).evalRow fields params row =
      (p.evalRow fields params row >>= fun b ↦
        if b then (and ps).evalRow fields params row else .ok false) := rfl

/-- A conjunction can be evaluated if its first test can, and the others can on a row that passes
it. -/
theorem exists_evalRow_and_cons :
    (∃ b, (and (p :: ps)).evalRow fields params row = .ok b) ↔
      (∃ b, p.evalRow fields params row = .ok b) ∧
        (passes (p.evalRow fields params row) →
          ∃ b, (and ps).evalRow fields params row = .ok b) := by
  rw [evalRow_and_cons]
  cases p.evalRow fields params row with
  | error e => simp [bind, Except.bind]
  | ok b => cases b <;> simp [bind, Except.bind]

/-- A conjunction is passed if its first test and the others are. -/
theorem passes_evalRow_and_cons :
    passes ((and (p :: ps)).evalRow fields params row) =
      (passes (p.evalRow fields params row) && passes ((and ps).evalRow fields params row)) := by
  rw [evalRow_and_cons]
  cases p.evalRow fields params row with
  | error e => rfl
  | ok b => cases b <;> rfl

theorem passes_evalRow_and :
    passes ((and ps).evalRow fields params row) =
      ps.all fun p ↦ passes (p.evalRow fields params row) := by
  induction ps with
  | nil => rfl
  | cons p ps ih => rw [passes_evalRow_and_cons, List.all_cons, ih]

end Conjunctions

end Predicate

/-! ## Filters -/

namespace Dataset

variable {data part : Dataset R} {p : Predicate R} {ps : List (Predicate R)}
  {params : ParamLookup R}

/-- A filter succeeds if its test can be evaluated on every row by itself, and leaves the rows that
pass it. -/
theorem filter_ok_iff_rows :
    data.filter p params = .ok part ↔
      (∀ row ∈ data.rows, ∃ b, p.evalRow data.fields params row = .ok b) ∧
        part = ⟨data.fields,
          data.rows.filter fun row ↦ passes (p.evalRow data.fields params row), data.nextKey⟩ := by
  have heval : ∀ i ∈ data.indices, ∃ row, data.rows[i]? = some row ∧
      p.eval data i params = p.evalRow data.fields params row := by
    intro i hi
    have hrow := List.getElem?_eq_getElem (List.mem_range.mp hi)
    exact ⟨_, hrow, p.eval_eq_evalRow hrow params⟩
  have hkept : data.indices.filter (fun i ↦ passes (p.eval data i params)) =
      data.indices.filter fun i ↦
        data.rows[i]?.any fun row ↦ passes (p.evalRow data.fields params row) := by
    refine List.filter_congr fun i hi ↦ ?_
    obtain ⟨row, hrow, heq⟩ := heval i hi
    rw [heq, hrow, Option.any_some]
  have hselect : data.select (data.indices.filter fun i ↦ passes (p.eval data i params)) =
      ⟨data.fields, data.rows.filter fun row ↦ passes (p.evalRow data.fields params row),
        data.nextKey⟩ := by
    rw [hkept, ← rows_select_filter]
    rfl
  rw [filter_ok_iff, hselect]
  refine and_congr_left fun _ ↦ ⟨?_, ?_⟩
  · intro h row hrow
    obtain ⟨i, hi, rfl⟩ := List.mem_iff_getElem.mp hrow
    rw [← p.eval_eq_evalRow (List.getElem?_eq_getElem hi)]
    exact h i (List.mem_range.mpr hi)
  · intro h i hi
    obtain ⟨row, hrow, heq⟩ := heval i hi
    rw [heq]
    exact h row (List.mem_of_getElem? hrow)

theorem filter_and_nil : data.filter (.and []) params = .ok data := by
  rw [filter_ok_iff_rows]
  refine ⟨fun row _ ↦ ⟨true, rfl⟩, ?_⟩
  simp [Predicate.evalRow_and_nil]

/-- To filter by a conjunction is to filter by its first test and then by the others. -/
theorem filter_and_cons_ok_iff :
    data.filter (.and (p :: ps)) params = .ok part ↔
      ∃ rest, data.filter p params = .ok rest ∧ rest.filter (.and ps) params = .ok part := by
  simp only [filter_ok_iff_rows, Predicate.exists_evalRow_and_cons,
    Predicate.passes_evalRow_and_cons]
  constructor
  · rintro ⟨hrows, rfl⟩
    refine ⟨_, ⟨fun row hrow ↦ (hrows row hrow).1, rfl⟩, ?_, ?_⟩
    · intro row hrow
      obtain ⟨hrow, hpasses⟩ := List.mem_filter.mp hrow
      exact (hrows row hrow).2 hpasses
    · simp [List.filter_filter, Bool.and_comm]
  · rintro ⟨rest, ⟨hrows, rfl⟩, hrest, rfl⟩
    refine ⟨fun row hrow ↦ ⟨hrows row hrow, fun hpasses ↦ ?_⟩, ?_⟩
    · exact hrest row (List.mem_filter.mpr ⟨hrow, hpasses⟩)
    · simp [List.filter_filter, Bool.and_comm]

end Dataset

namespace ChartSpec

/-- The filters of a chart come to the same as their conjunction. -/
theorem filterData_ok_iff {spec : ChartSpec R} {data part : Dataset R} {params : ParamLookup R} :
    spec.filterData data params = .ok part ↔ data.filter (.and spec.filters) params = .ok part := by
  rw [filterData]
  induction spec.filters generalizing data with
  | nil =>
      rw [Dataset.filter_and_nil]
      exact ⟨fun h ↦ congrArg _ (Except.ok.inj h), fun h ↦ congrArg _ (Except.ok.inj h)⟩
  | cons p ps ih =>
      rw [List.foldlM_cons, bind_ok_iff, Dataset.filter_and_cons_ok_iff]
      simp only [mapError_ok_iff, ih]

/-- A chart filters its data as their conjunction would: one fails exactly if the other does, and
otherwise both leave the same, which is the rows that pass all filters, with everything else as it
was. -/
theorem filterData_eq_filter_and (spec : ChartSpec R) (data : Dataset R) (params : ParamLookup R) :
    ((∃ part, spec.filterData data params = .ok part) ↔
      ∃ part, data.filter (.and spec.filters) params = .ok part) ∧
    ∀ part, spec.filterData data params = .ok part →
      data.filter (.and spec.filters) params = .ok part ∧
      part.fields = data.fields ∧ part.nextKey = data.nextKey ∧
      part.rows = (data.indices.filter fun i ↦
        spec.filters.all fun p ↦ passes (p.eval data i params)).filterMap (data.rows[·]?) := by
  refine ⟨exists_congr fun part ↦ filterData_ok_iff, fun part hpart ↦ ?_⟩
  have hfilter := filterData_ok_iff.mp hpart
  obtain ⟨-, rfl⟩ := Dataset.filter_ok_iff.mp hfilter
  refine ⟨hfilter, rfl, rfl, ?_⟩
  have hpasses : ∀ i ∈ data.indices, passes ((Predicate.and spec.filters).eval data i params) =
      spec.filters.all fun p ↦ passes (p.eval data i params) := by
    intro i hi
    have hrow := List.getElem?_eq_getElem (List.mem_range.mp hi)
    simp only [Predicate.eval_eq_evalRow hrow, Predicate.passes_evalRow_and]
  exact congrArg (List.filterMap (data.rows[·]?)) (List.filter_congr hpasses)

/-! ### Some parcels

Of three parcels one is too light and one too heavy. -/

/-- Parcels with their weights; the key of the second one is not its position. -/
def parcels : Dataset Rat :=
  ⟨[.untyped "weight"], [⟨0, [.number 2]⟩, ⟨4, [.string "5"]⟩, ⟨7, [.number 9]⟩], 8⟩

/-- The parcels from three up to a limit. -/
def parcelSpec : ChartSpec Rat :=
  { view := ⟨⟨.point, none⟩, [], none, none⟩
    facet := .standard
    params := [⟨"limit", .number 8, none⟩]
    filters := [.compare "weight" .ge (.value (.number 3)),
      .compare "weight" .le (.param "limit")] }

/-- The limit of the parcels. -/
def parcelLimit : ParamLookup Rat
  | "limit" => some (.number 8)
  | _ => none

/-- The parcel in between is left, with its key and its weight as it was written. -/
theorem filterData_eq_filter_and_parcels :
    ∃ part, parcelSpec.filterData parcels parcelLimit = .ok part ∧
      parcels.filter (.and parcelSpec.filters) parcelLimit = .ok part ∧
      part.rows = [⟨4, [.string "5"]⟩] ∧ part.nextKey = 8 := by
  have hcomputed : (parcelSpec.filterData parcels parcelLimit).toOption.map (·.rows) =
      some [⟨4, [.string "5"]⟩] := by decide +kernel
  obtain ⟨part, hpart, hrows⟩ := exists_ok_of_map_eq_some hcomputed
  obtain ⟨-, hall⟩ := filterData_eq_filter_and parcelSpec parcels parcelLimit
  obtain ⟨hfilter, -, hnext, -⟩ := hall part hpart
  exact ⟨part, hpart, hfilter, hrows, hnext⟩

end ChartSpec

end Charting
