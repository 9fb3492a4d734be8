import Mathlib.Algebra.GroupWithZero.Nat
import Charting.Proofs.Data.OnePass
import Charting.Proofs.Scene.Groups

/-!
# Tables of groups

What aggregation comes to is told without the way in which it is made (`Dataset.IsGroupTable`):
there is one row for each combination of values in the grouping fields, in order of first
appearance, and it has the values of the first row of the group and the summaries of all its rows.
Aggregation of rectangular data makes such a table exactly if it finds its columns
(`Dataset.Lacks`), whether rows are grouped first or summarised in one pass
(`Dataset.aggregate_isGroupTable`).
-/

namespace Charting

variable {R : Type}

namespace Dataset

variable {data : Dataset R} {names : List String} {summaries : List AggregateField}

/-! ## Columns that are not there -/

/-- A field to group by is not there, or one to summarise; counting needs none. -/
def Lacks (data : Dataset R) (names : List String) (summaries : List AggregateField) : Prop :=
  (∃ name ∈ names, data.columnIndex? name = none) ∨
    ∃ f ∈ summaries, f.op ≠ .count ∧ f.input.bind data.columnIndex? = none

instance (data : Dataset R) (names : List String) (summaries : List AggregateField) :
    Decidable (data.Lacks names summaries) :=
  inferInstanceAs (Decidable (_ ∨ _))

theorem exists_column_ok_iff {name : String} :
    (∃ i, data.column name = .ok i) ↔ data.columnIndex? name ≠ none := by
  simp only [column_ok_iff]
  exact Option.isSome_iff_exists.symm.trans Option.isSome_iff_ne_none

theorem exists_inputColumn_ok_iff {f : AggregateField} :
    (∃ column, f.inputColumn data = .ok column) ↔
      (f.op ≠ .count → f.input.bind data.columnIndex? ≠ none) := by
  simp only [AggregateField.inputColumn_ok_iff]
  constructor
  · rintro ⟨column, ⟨hop, -⟩ | ⟨-, name, i, hinput, hi, -⟩⟩ hcount
    · exact absurd hop hcount
    · rw [hinput, Option.bind_some, hi]
      exact Option.some_ne_none i
  · intro hfound
    by_cases hop : f.op = .count
    · exact ⟨none, .inl ⟨hop, rfl⟩⟩
    · obtain ⟨i, hi⟩ := Option.ne_none_iff_exists'.mp (hfound hop)
      obtain ⟨name, hinput, hi⟩ := Option.bind_eq_some_iff.mp hi
      exact ⟨some i, .inr ⟨hop, name, i, hinput, hi, rfl⟩⟩

/-- All columns are found if none is lacking. -/
theorem not_lacks_iff : ¬data.Lacks names summaries ↔
    (∃ columns, names.mapM data.column = .ok columns) ∧
      ∃ inputs, summaries.mapM (AggregateField.inputColumn data) = .ok inputs := by
  rw [exists_mapM_ok_iff, exists_mapM_ok_iff, Lacks, not_or]
  simp only [exists_column_ok_iff, exists_inputColumn_ok_iff, not_exists, not_and]

theorem exists_field?_of_column {name : String} {i : Nat} (h : data.column name = .ok i) :
    ∃ field, data.field? name = some field := by
  obtain ⟨hlt, hname, -⟩ := List.findIdx?_eq_some_iff_getElem.mp (column_ok_iff.mp h)
  exact Option.isSome_iff_exists.mp (List.find?_isSome.mpr ⟨_, List.getElem_mem hlt, hname⟩)

/-- The fields with some names, if there are columns with these names. -/
theorem forall₂_filterMap_field? {columns : List Nat}
    (h : names.mapM data.column = .ok columns) :
    List.Forall₂ (fun name field ↦ data.field? name = some field) names
      (names.filterMap data.field?) := by
  have hfound := mapM_ok_iff.mp h
  clear h
  induction hfound with
  | nil => exact .nil
  | cons hcolumn _ ih =>
      obtain ⟨field, hfield⟩ := exists_field?_of_column hcolumn
      rw [List.filterMap_cons, hfield]
      exact .cons hfield ih

end Dataset

variable [Scalar R]

/-! ## What aggregation comes to -/

/-- The keys of the first `n` values of a row. -/
def Row.leadingKeys (n : Nat) (row : Row R) : List (Value R) := (row.values.take n).map Value.key

namespace Dataset

/-- The first dataset has one row for each group of rows of the second one that agree in some fields,
with some summaries of the group. -/
structure IsGroupTable (result data : Dataset R) (names : List String)
    (summaries : List AggregateField) : Prop where
  /-- The columns are the fields to group by as they are in the data, and then the summaries, which
  are ratios. -/
  fields_eq : ∃ fields, List.Forall₂ (fun name field ↦ data.field? name = some field) names fields ∧
    result.fields = fields ++ summaries.map fun f ↦ ⟨f.output, some .quantitative, some .ratio⟩
  /-- Each row has a value in each column. -/
  isRectangular : result.IsRectangular
  /-- The keys of the rows count from zero. -/
  keys_eq : result.keys = List.range result.size
  /-- No row has had the next key. -/
  nextKey_eq : result.nextKey = result.size
  /-- Each combination of values in the fields to group by has a row. -/
  mem_leadingKeys {k : List (Value R)} : k ∈ result.rows.map (Row.leadingKeys names.length) ↔
    ∃ row ∈ data.rows, data.groupKey names row = k
  /-- The rows are different combinations, in order of first appearance. -/
  pairwise_leadingKeys : (result.rows.map (Row.leadingKeys names.length)).Pairwise fun k l ↦
    data.rows.findIdx (data.groupKey names · = k) < data.rows.findIdx (data.groupKey names · = l)
  /-- A row has the values of the first row of its group, and then the summaries over the rows of the
  group, in their order. -/
  rows_summarise {drawn : Row R} : drawn ∈ result.rows → ∃ first rest,
    data.rows.filter (data.groupKey names · = drawn.leadingKeys names.length) = first :: rest ∧
    (∀ (j : Nat) (name : String), names[j]? = some name →
      ∃ v, drawn.values[j]? = some v ∧ data.valueIn? name first = some v) ∧
    ∀ (j : Nat) (f : AggregateField), summaries[j]? = some f →
      ∃ v, drawn.values[names.length + j]? = some v ∧
        f.op.IsSummary (first :: rest).length (f.readings data (first :: rest)) v
  /-- The rows that are counted are all rows together. -/
  counts_eq {j : Nat} {f : AggregateField} : summaries[j]? = some f → f.op = .count →
    ∃ counts : List Nat, counts.sum = data.size ∧
      result.rows.map (·.values[names.length + j]?) =
        counts.map fun n ↦ some (.number (Scalar.ofNat n))

section Table

variable {data : Dataset R} {names : List String} {summaries : List AggregateField}

/-- The row of a group begins with the values of the group. -/
theorem map_key_take_summaryCells (first : Row R) :
    (((data.summaryCells names summaries first).map (·.2)).take names.length).map Value.key =
      data.groupKey names first := by
  rw [summaryCells, List.map_append, List.map_map, List.take_left' (by simp), groupKey, valuesIn]
  rfl

namespace IsAggregate

variable {result : Dataset R} (h : result.IsAggregate data names summaries)

include h

theorem map_values_eq : result.rows.map (·.values) = (data.firstRows names).map fun first ↦
    (data.summaryCells names summaries first).map (·.2) := by
  rw [h.rows_eq, List.map_map]
  conv => rhs; rw [← List.zipIdx_map_fst 0 (data.firstRows names), List.map_map]
  rfl

/-- The rows are known from the first rows of the groups. -/
theorem map_leadingKeys : result.rows.map (Row.leadingKeys names.length) =
    (data.firstRows names).map (data.groupKey names) := by
  have hkeys : result.rows.map (Row.leadingKeys names.length) =
      (result.rows.map (·.values)).map fun values ↦ (values.take names.length).map Value.key := by
    rw [List.map_map]
    rfl
  rw [hkeys, h.map_values_eq, List.map_map]
  exact List.map_congr_left fun first _ ↦ map_key_take_summaryCells first

/-- Each row is made of the cells of a group, and the group is known from the row. -/
theorem exists_first {drawn : Row R} (hdrawn : drawn ∈ result.rows) :
    ∃ first ∈ data.firstRows names, drawn.leadingKeys names.length = data.groupKey names first ∧
      drawn.values = (data.summaryCells names summaries first).map (·.2) := by
  have hvalues : drawn.values ∈ result.rows.map (·.values) := List.mem_map_of_mem hdrawn
  rw [h.map_values_eq] at hvalues
  obtain ⟨first, hfirst, hvalues⟩ := List.mem_map.mp hvalues
  refine ⟨first, hfirst, ?_, hvalues.symm⟩
  rw [Row.leadingKeys, ← hvalues, map_key_take_summaryCells]

/-- Each row summarises the rows with its values. -/
theorem exists_summarised {drawn : Row R} (hdrawn : drawn ∈ result.rows) : ∃ first rest,
    data.rows.filter (data.groupKey names · = drawn.leadingKeys names.length) = first :: rest ∧
    (∀ (j : Nat) (name : String), names[j]? = some name →
      ∃ v, drawn.values[j]? = some v ∧ data.valueIn? name first = some v) ∧
    ∀ (j : Nat) (f : AggregateField), summaries[j]? = some f →
      ∃ v, drawn.values[names.length + j]? = some v ∧
        f.op.IsSummary (first :: rest).length (f.readings data (first :: rest)) v := by
  obtain ⟨first, hfirst, hkeys, hvalues⟩ := h.exists_first hdrawn
  obtain ⟨rest, hgroup⟩ := peers_of_mem_distinctBy hfirst
  refine ⟨first, rest, by rw [hkeys]; exact hgroup, fun j name hname ↦ ?_, fun j f hf ↦ ?_⟩
  · obtain ⟨v, hv⟩ := Option.isSome_iff_exists.mp (h.isSome first
      ((data.firstRows_sublist names).subset hfirst) name (List.mem_of_getElem? hname))
    exact ⟨v, by rw [hvalues, getElem?_summaryCells_name hname, hv]; rfl, hv⟩
  · refine ⟨_, by rw [hvalues, getElem?_summaryCells_summary hf], ?_⟩
    rw [group, hgroup]
    exact f.isSummary_value data (first :: rest)

/-- What is counted are the sizes of the groups, which are all rows together. -/
theorem exists_counts {j : Nat} {f : AggregateField} (hf : summaries[j]? = some f)
    (hop : f.op = .count) : ∃ counts : List Nat, counts.sum = data.size ∧
      result.rows.map (·.values[names.length + j]?) =
        counts.map fun n ↦ some (.number (Scalar.ofNat n)) := by
  refine ⟨(data.firstRows names).map fun first ↦ (data.group names first).length, ?_, ?_⟩
  · have hperm := flatMap_peers_perm (data.groupKey names) data.rows
    rw [size, ← hperm.length_eq, List.length_flatMap]
    rfl
  · have hcells : result.rows.map (·.values[names.length + j]?) =
        (result.rows.map (·.values)).map (·[names.length + j]?) := by
      rw [List.map_map]
      rfl
    rw [hcells, h.map_values_eq, List.map_map, List.map_map]
    refine List.map_congr_left fun first _ ↦ ?_
    rw [Function.comp_apply, Function.comp_apply, getElem?_summaryCells_summary hf,
      AggregateField.value_of_count hop]

end IsAggregate

/-- A table of all summaries is a table of groups. -/
theorem isGroupTable_summaryTable {columns : List Nat}
    (hcolumns : names.mapM data.column = .ok columns)
    (h : (data.summaryTable names summaries).IsAggregate data names summaries) :
    (data.summaryTable names summaries).IsGroupTable data names summaries where
  fields_eq := ⟨_, forall₂_filterMap_field? hcolumns, rfl⟩
  isRectangular := h.isRectangular
  keys_eq := by rw [h.keys_eq, size, h.length_eq]
  nextKey_eq := by
    rw [size, h.length_eq]
    exact List.length_map _
  mem_leadingKeys {k} := by
    rw [h.map_leadingKeys, firstRows, mem_map_distinctBy, List.mem_map]
  pairwise_leadingKeys := by
    rw [h.map_leadingKeys, List.pairwise_map]
    exact pairwise_distinctBy (data.groupKey names) data.rows
  rows_summarise := h.exists_summarised
  counts_eq := h.exists_counts

/-- Aggregation of rectangular data fails exactly if a column is lacking that it needs, and makes a
table of groups otherwise.  One pass over the rows comes to the same. -/
theorem aggregate_isGroupTable (rectangular : data.IsRectangular) (names : List String)
    (summaries : List AggregateField) :
    (data.Lacks names summaries →
      ∃ name, data.aggregate names summaries = .error (.unknownField name)) ∧
    (¬data.Lacks names summaries → ∃ result, data.aggregate names summaries = .ok result ∧
      result.IsGroupTable data names summaries) ∧
    data.aggregateInOnePass names summaries = data.aggregate names summaries := by
  refine ⟨fun hlacks ↦ ?_, fun hfound ↦ ?_, ?_⟩
  · cases h : data.aggregate names summaries with
    | error e =>
        obtain ⟨name, rfl⟩ := rectangular.aggregate_error h
        exact ⟨name, rfl⟩
    | ok result =>
        obtain ⟨columns, hcolumns, h⟩ := bind_ok_iff.mp h
        obtain ⟨inputs, hinputs, -⟩ := bind_ok_iff.mp h
        exact absurd hlacks (not_lacks_iff.mpr ⟨⟨columns, hcolumns⟩, inputs, hinputs⟩)
  · obtain ⟨⟨columns, hcolumns⟩, inputs, hinputs⟩ := not_lacks_iff.mp hfound
    have h := rectangular.aggregate_eq hcolumns hinputs
    exact ⟨_, h, isGroupTable_summaryTable hcolumns (aggregate_ok h)⟩
  · exact rectangular.aggregateInOnePass_eq_aggregate names summaries

end Table

end Dataset

/-! ### Rainfall at some stations -/

/-- Amounts of rain, one of them only traces, and one at a station that is not known. -/
def rainfall : Dataset ℚ :=
  .ofRows [.untyped "station", .untyped "mm"]
    [[.string "Hull", .number 4], [.string "Perth", .string "traces"],
      [.string "Hull", .string "2.5"], [.null, .number 7], [.string "Perth", .number 1],
      [.string "Hull", .null]]

/-- How often was it measured, and how much was it at least and on average? -/
def rainSummaries : List AggregateField :=
  [.rowCount, .of .min "mm", .of .mean "mm"]

theorem aggregate_isGroupTable_rainfall :
    rainfall.IsRectangular ∧ ¬rainfall.Lacks ["station"] rainSummaries ∧
      rainfall.Lacks ["place"] rainSummaries ∧
      (∃ name, rainfall.aggregate ["place"] rainSummaries = .error (.unknownField name)) ∧
      ∃ result, rainfall.aggregate ["station"] rainSummaries = .ok result ∧
        rainfall.aggregateInOnePass ["station"] rainSummaries = .ok result ∧
        result.rows.map (·.values) =
          [[.string "Hull", .number 3, .number (5 / 2), .number (13 / 4)],
            [.string "Perth", .number 2, .number 1, .number 1],
            [.null, .number 1, .number 7, .number 7]] ∧
        result.IsGroupTable rainfall ["station"] rainSummaries := by
  have hrectangular : rainfall.IsRectangular := by decide
  have hfound : ¬rainfall.Lacks ["station"] rainSummaries := by decide
  have hlacks : rainfall.Lacks ["place"] rainSummaries := by decide
  have hcomputed : (rainfall.aggregate ["station"] rainSummaries).toOption.map
      (fun result ↦ result.rows.map (·.values)) =
      some [[.string "Hull", .number 3, .number (5 / 2), .number (13 / 4)],
        [.string "Perth", .number 2, .number 1, .number 1],
        [.null, .number 1, .number 7, .number 7]] := by
    decide +kernel
  obtain ⟨hlacking, -, -⟩ := Dataset.aggregate_isGroupTable hrectangular ["place"] rainSummaries
  obtain ⟨-, hmade, hpass⟩ := Dataset.aggregate_isGroupTable hrectangular ["station"] rainSummaries
  obtain ⟨result, h, htable⟩ := hmade hfound
  rw [h] at hcomputed
  exact ⟨hrectangular, hfound, hlacks, hlacking hlacks, result, h, hpass.trans h,
    Option.some.inj hcomputed, htable⟩

end Charting
