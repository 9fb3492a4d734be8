import Charting.Proofs.Data.Pushing
import Charting.Proofs.Data.Selection
import Charting.Proofs.Scene.Preparation

/-!
# Rows with one value per field

In a rectangular dataset every row has one value per field.  Whatever is read from records is
rectangular (`Dataset.isRectangular_ofRecords`), and filters and aggregation keep it so.  A column
that is found by its name is then found in every row, and aggregation fails only if a name stands
for no column (`Dataset.IsRectangular.aggregate_error`).
-/

namespace Charting

variable {R : Type}

namespace Dataset

/-- Every row has one value per field. -/
def IsRectangular (data : Dataset R) : Prop :=
  ∀ row ∈ data.rows, row.values.length = data.fields.length

instance (data : Dataset R) : Decidable data.IsRectangular :=
  inferInstanceAs (Decidable (∀ row ∈ data.rows, row.values.length = data.fields.length))

/-! ## Where rectangular data comes from -/

theorem IsRectangular.withRow {data : Dataset R} (h : data.IsRectangular) {values : List (Value R)}
    (hlength : values.length = data.fields.length) : (data.withRow values).IsRectangular := by
  intro row hrow
  rcases List.mem_append.mp hrow with hrow | hrow
  · exact h row hrow
  · rw [List.mem_singleton.mp hrow]
    exact hlength

theorem IsRectangular.push {data : Dataset R} (h : data.IsRectangular) {values : List (Value R)}
    {result : Nat × Dataset R} (hpush : data.push values = .ok result) :
    result.2.IsRectangular := by
  obtain ⟨hlength, -, heq⟩ := append_ok_iff.mp (push_ok_iff.mp hpush)
  rw [heq]
  exact h.withRow hlength

/-- Records that lack a name have a missing value under it. -/
theorem isRectangular_ofRecords [Scalar R] {records : List (Json R)} {data : Dataset R}
    (h : ofRecords records = .ok data) : data.IsRectangular := by
  obtain ⟨columns, -, h⟩ := bind_ok_iff.mp h
  refine foldlM_ok_induction (P := IsRectangular) (fun data record data' hdata hstep ↦ ?_) ?_ h
  · obtain ⟨result, hpush, hstep⟩ := bind_ok_iff.mp hstep
    rw [← Except.ok.inj hstep]
    exact hdata.push hpush
  · exact List.forall_mem_nil _

theorem IsSelection.isRectangular {part data : Dataset R} (hpart : part.IsSelection data)
    (h : data.IsRectangular) : part.IsRectangular := by
  intro row hrow
  rw [hpart.fields_eq]
  exact h row (hpart.rows_sublist.subset hrow)

theorem IsAggregate.isRectangular [Scalar R] {result data : Dataset R} {names : List String}
    {summaries : List AggregateField} (h : result.IsAggregate data names summaries) :
    result.IsRectangular := by
  intro row hrow
  rw [h.rows_eq] at hrow
  obtain ⟨⟨first, i⟩, -, rfl⟩ := List.mem_map.mp hrow
  have hlength := congrArg List.length h.names_eq
  rw [List.length_map] at hlength
  rw [hlength]
  simp [summaryCells]

/-! ## Columns of rectangular data -/

theorem column_error {data : Dataset R} {name : String} {e : DataError}
    (h : data.column name = .error e) : e = .unknownField name := by
  rw [column] at h
  split at h
  · cases h
  · exact (Except.error.inj h).symm

theorem inputColumn_error {data : Dataset R} {f : AggregateField} {e : DataError}
    (h : f.inputColumn data = .error e) : ∃ name, e = .unknownField name := by
  rw [AggregateField.inputColumn] at h
  split at h
  · cases h
  case h_2 name _ _ =>
    rcases bind_error_iff.mp h with h | ⟨i, -, h⟩
    · exact ⟨name, column_error h⟩
    · cases h
  · exact ⟨_, (Except.error.inj h).symm⟩

/-- A column that is found is one of the columns. -/
theorem lt_length_fields {data : Dataset R} {name : String} {column : Nat}
    (h : data.columnIndex? name = some column) : column < data.fields.length := by
  obtain ⟨hlt, -⟩ := List.findIdx?_eq_some_iff_getElem.mp h
  exact hlt

namespace IsRectangular

variable {data : Dataset R} (h : data.IsRectangular)

include h

/-- A column that is found is found in every row. -/
theorem lt_length_values {name : String} {column : Nat}
    (hcolumn : data.columnIndex? name = some column) {row : Row R} (hrow : row ∈ data.rows) :
    column < row.values.length := by
  rw [h row hrow]
  exact lt_length_fields hcolumn

theorem cell_ne_error {name : String} {column : Nat}
    (hcolumn : data.columnIndex? name = some column) {row : Row R} (hrow : row ∈ data.rows)
    (e : DataError) : row.cell column ≠ .error e := by
  rw [Row.cell, List.getElem?_eq_getElem (h.lt_length_values hcolumn hrow)]
  exact fun herror ↦ by cases herror

/-- No cell of a row is missing in columns that are found. -/
theorem mapM_cell_ne_error {names : List String} {columns : List Nat}
    (hcolumns : names.mapM data.column = .ok columns) {row : Row R} (hrow : row ∈ data.rows)
    (e : DataError) : columns.mapM row.cell ≠ .error e := by
  intro herror
  obtain ⟨column, hmem, herror⟩ := exists_error_of_mapM_error herror
  obtain ⟨name, hname⟩ := exists_of_forall₂ (mapM_ok_iff.mp hcolumns).flip column hmem
  exact h.cell_ne_error (column_ok_iff.mp hname) hrow e herror

variable [Scalar R]

/-- Rows can be grouped by columns that are found. -/
theorem groupRows_ne_error {names : List String} {columns : List Nat}
    (hcolumns : names.mapM data.column = .ok columns) (e : DataError) :
    data.groupRows columns ≠ .error e := by
  intro herror
  rcases bind_error_iff.mp herror with herror | ⟨tagged, -, herror⟩
  · obtain ⟨row, hrow, herror⟩ := exists_error_of_mapM_error herror
    rcases bind_error_iff.mp herror with herror | ⟨values, -, herror⟩
    · exact h.mapM_cell_ne_error hcolumns hrow e herror
    · cases herror
  · cases herror

omit [Scalar R] in
/-- Summaries find their values in every row. -/
theorem read_ne_error {f : AggregateField} {column : Option Nat}
    (hcolumn : f.inputColumn data = .ok column) {row : Row R} (hrow : row ∈ data.rows)
    (e : DataError) : AggregateField.read column row ≠ .error e := by
  rcases AggregateField.inputColumn_ok_iff.mp hcolumn with ⟨-, rfl⟩ | ⟨-, name, i, -, hi, rfl⟩
  · exact fun herror ↦ by cases herror
  · exact h.cell_ne_error hi hrow e

section Summaries

variable {names : List String} {columns : List Nat}
  (hcolumns : names.mapM data.column = .ok columns) {summaries : List AggregateField}
  {inputs : List (Option Nat)}
  (hinputs : summaries.mapM (AggregateField.inputColumn data) = .ok inputs) {rows : List (Row R)}
  (hrows : ∀ row ∈ rows, row ∈ data.rows)

include hinputs hrows

/-- Rows can be summarised, whatever comes before the summaries. -/
theorem append_summaries_ne_error (first : List (Value R)) (e : DataError) :
    (show Except DataError (List (Value R)) from do
      let results ← (summaries.zip inputs).mapM fun (f, column) ↦ do
        let values ← rows.mapM (AggregateField.read column)
        .ok (f.op.apply values)
      .ok (first ++ results)) ≠ .error e := by
  intro herror
  rcases bind_error_iff.mp herror with herror | ⟨results, -, herror⟩
  · obtain ⟨⟨f, column⟩, hmem, herror⟩ := exists_error_of_mapM_error herror
    have hcolumn : f.inputColumn data = .ok column :=
      List.forall₂_zip (mapM_ok_iff.mp hinputs) hmem
    rcases bind_error_iff.mp herror with herror | ⟨values, -, herror⟩
    · obtain ⟨row, hrow, herror⟩ := exists_error_of_mapM_error herror
      exact h.read_ne_error hcolumn (hrows row hrow) e herror
    · cases herror
  · cases herror

include hcolumns

theorem summarise_ne_error (e : DataError) :
    summarise columns (summaries.zip inputs) rows ≠ .error e := by
  intro herror
  cases rows with
  | nil => exact h.append_summaries_ne_error hinputs hrows [] e herror
  | cons row rows =>
      rcases bind_error_iff.mp herror with herror | ⟨first, -, herror⟩
      · exact h.mapM_cell_ne_error hcolumns (hrows row List.mem_cons_self) e herror
      · exact h.append_summaries_ne_error hinputs hrows first e herror

end Summaries

/-- Rectangular data fails to be aggregated only if a name stands for no column. -/
theorem aggregate_error {names : List String} {summaries : List AggregateField} {e : DataError}
    (herror : data.aggregate names summaries = .error e) : ∃ name, e = .unknownField name := by
  rcases bind_error_iff.mp herror with herror | ⟨columns, hcolumns, herror⟩
  · obtain ⟨name, -, herror⟩ := exists_error_of_mapM_error herror
    exact ⟨name, column_error herror⟩
  rcases bind_error_iff.mp herror with herror | ⟨inputs, hinputs, herror⟩
  · obtain ⟨f, -, herror⟩ := exists_error_of_mapM_error herror
    exact inputColumn_error herror
  rcases bind_error_iff.mp herror with herror | ⟨groups, hgroups, herror⟩
  · exact absurd herror (h.groupRows_ne_error hcolumns e)
  rcases bind_error_iff.mp herror with herror | ⟨rows, -, herror⟩
  · obtain ⟨⟨key, rows⟩, hmem, herror⟩ := exists_error_of_mapM_error herror
    rw [(groupRows_ok hcolumns hgroups).2] at hmem
    obtain ⟨first, -, heq⟩ := List.mem_map.mp hmem
    obtain ⟨-, rfl⟩ := Prod.mk.inj heq
    have hrows : ∀ row ∈ data.group names first, row ∈ data.rows :=
      fun row hrow ↦ (List.mem_filter.mp hrow).1
    exact absurd herror (h.summarise_ne_error hcolumns hinputs hrows e)
  · cases herror

end IsRectangular

end Dataset

end Charting
