import Charting.Data.Accumulator
import Charting.Proofs.Data.Rectangular

/-!
# One pass over the rows

Reading every row once comes to the same as grouping the rows first and summarising the groups then
(`Dataset.IsRectangular.aggregateInOnePass_eq_aggregate`).  What an accumulator holds follows from
the number of values and the list of their finite readings (`Accumulator.ofReadings`), and the
tallies after some rows are those of the groups of `groupBy` (`Tally.ofGroup`).  One more row keeps
both.
-/

namespace Charting

variable {R : Type} [Scalar R]

/-! ## Accumulators -/

namespace Accumulator

/-- What is kept of `n` values with the given finite readings. -/
def ofReadings (n : Nat) : List R → Accumulator R
  | [] => ⟨n, 0, Scalar.ofInt 0, Scalar.ofInt 0, Scalar.ofInt 0⟩
  | x :: rest =>
    { count := n
      numeric := rest.length + 1
      sum := AggregateOp.total (x :: rest)
      least := rest.foldl Scalar.min x
      greatest := rest.foldl Scalar.max x }

/-- One more value is counted, and its reading comes last. -/
theorem push_ofReadings (n : Nat) (xs : List R) (reading : Option R) :
    (ofReadings n xs).push reading =
      ofReadings (n + 1) (xs ++ (reading.filter Scalar.isFinite).toList) := by
  rw [push]
  cases reading.filter Scalar.isFinite with
  | none =>
      rw [Option.toList_none, List.append_nil]
      cases xs <;> rfl
  | some x =>
      cases xs with
      | nil => rfl
      | cons y rest => simp [ofReadings, AggregateOp.total]

/-- Many values are counted, and their readings are kept in order. -/
theorem foldl_push (n : Nat) (xs : List R) (readings : List (Option R)) :
    readings.foldl push (ofReadings n xs) = ofReadings (n + readings.length)
      (xs ++ readings.filterMap (·.filter Scalar.isFinite)) := by
  induction readings generalizing n xs with
  | nil => simp
  | cons reading readings ih =>
      rw [List.foldl_cons, push_ofReadings, ih, List.filterMap_cons, List.length_cons,
        Nat.add_right_comm, Nat.add_assoc, List.append_assoc]
      cases reading.filter Scalar.isFinite <;> rfl

/-- The summary of values is known from their number and their finite readings. -/
theorem finish_ofReadings (op : AggregateOp) (values : List (Value R)) :
    (ofReadings values.length (values.filterMap Value.toFinite?)).finish op = op.apply values := by
  unfold AggregateOp.apply
  generalize values.filterMap Value.toFinite? = xs
  cases xs with
  | nil => cases op <;> rfl
  | cons x rest => cases op <;> rfl

/-- An accumulator that has been given some values holds their summary. -/
theorem finish_foldl_push (op : AggregateOp) (values : List (Value R)) :
    ((values.map Value.toNumber?).foldl push empty).finish op = op.apply values := by
  have hreadings : (values.map Value.toNumber?).filterMap (·.filter Scalar.isFinite) =
      values.filterMap Value.toFinite? := by
    rw [List.filterMap_map]
    rfl
  have hrun := foldl_push 0 [] (values.map Value.toNumber?)
  rw [List.nil_append, hreadings, Nat.zero_add, List.length_map] at hrun
  have hstart : (empty : Accumulator R) = ofReadings 0 [] := rfl
  rw [hstart, hrun, finish_ofReadings]

end Accumulator

/-! ## Tallies -/

namespace Tally

variable (values : Row R → List (Value R)) (inputs : List (Row R → Value R))

/-- The numeric readings of what the summaries read in a row. -/
def readingsOf (row : Row R) : List (Option R) := inputs.map fun read ↦ (read row).toNumber?

/-- What is kept of a group. -/
def ofGroup (group : List (Value R) × List (Row R)) : Tally R :=
  { key := group.1
    first := (group.2.head?.map values).getD []
    accumulators := inputs.map fun read ↦
      (group.2.map fun row ↦ (read row).toNumber?).foldl Accumulator.push Accumulator.empty }

@[simp] theorem key_ofGroup (group : List (Value R) × List (Row R)) :
    (ofGroup values inputs group).key = group.1 := rfl

/-- What is kept of a group that has one more row. -/
theorem ofGroup_concat {key : List (Value R)} {rows : List (Row R)} (hrows : rows ≠ [])
    (row : Row R) : ofGroup values inputs (key, rows ++ [row]) =
      (ofGroup values inputs (key, rows)).push (readingsOf inputs row) := by
  obtain ⟨first, rest, rfl⟩ := List.exists_cons_of_ne_nil hrows
  rw [push, readingsOf, ofGroup, ofGroup, List.zipWith_map, List.zipWith_self]
  simp

/-- A row is put into the tallies as it is put into the groups. -/
theorem map_ofGroup_insertInGroup {groups : List (List (Value R) × List (Row R))}
    (hgroups : ∀ group ∈ groups, group.2 ≠ []) (row : Row R) :
    (insertInGroup ((values row).map Value.key) row groups).map (ofGroup values inputs) =
      insert (values row) (readingsOf inputs row) (groups.map (ofGroup values inputs)) := by
  induction groups with
  | nil => simp [insertInGroup, insert, start, ofGroup, readingsOf]
  | cons group groups ih =>
      obtain ⟨hrows, hothers⟩ := List.forall_mem_cons.mp hgroups
      obtain ⟨key, rows⟩ := group
      rw [insertInGroup, List.map_cons, insert, key_ofGroup]
      by_cases hkey : key = (values row).map Value.key
      · rw [if_pos hkey, if_pos hkey, List.map_cons, ofGroup_concat values inputs hrows]
      · rw [if_neg hkey, if_neg hkey, List.map_cons, ih hothers]

end Tally

/-- No group is without rows when a row has been put into one. -/
theorem forall_mem_insertInGroup_ne_nil {α κ : Type} [DecidableEq κ] (k : κ) (x : α)
    {groups : List (κ × List α)} (hgroups : ∀ group ∈ groups, group.2 ≠ []) :
    ∀ group ∈ insertInGroup k x groups, group.2 ≠ [] := by
  induction groups with
  | nil => simp [insertInGroup]
  | cons group groups ih =>
      obtain ⟨hgroup, hothers⟩ := List.forall_mem_cons.mp hgroups
      rw [insertInGroup]
      split
      · exact List.forall_mem_cons.mpr ⟨by simp, hothers⟩
      · exact List.forall_mem_cons.mpr ⟨hgroup, ih hothers⟩

/-- The tallies of some rows are those of their groups. -/
theorem Tally.foldl_insert (values : Row R → List (Value R)) (inputs : List (Row R → Value R))
    (rows : List (Row R)) :
    rows.foldl (fun tallies row ↦ insert (values row) (readingsOf inputs row) tallies) [] =
      (groupBy (fun row ↦ (values row).map Value.key) rows).map (ofGroup values inputs) := by
  have hrun : ∀ groups : List (List (Value R) × List (Row R)),
      (∀ group ∈ groups, group.2 ≠ []) →
      rows.foldl (fun tallies row ↦ insert (values row) (readingsOf inputs row) tallies)
          (groups.map (ofGroup values inputs)) =
        (rows.foldl (fun groups row ↦ insertInGroup ((values row).map Value.key) row groups)
          groups).map (ofGroup values inputs) := by
    induction rows with
    | nil => exact fun _ _ ↦ rfl
    | cons row rows ih =>
        intro groups hgroups
        rw [List.foldl_cons, ← map_ofGroup_insertInGroup values inputs hgroups row,
          ih _ (forall_mem_insertInGroup_ne_nil _ row hgroups)]
        rfl
  exact hrun [] (by simp)

/-! ## What is read in a row -/

namespace AggregateField

/-- The value that a summary reads in a row; counting reads none. -/
def valueIn (f : AggregateField) (data : Dataset R) (row : Row R) : Value R :=
  if f.op = .count then .null else (f.input.bind (data.valueIn? · row)).getD .null

/-- A summary of a group is made of the values that are read in its rows. -/
theorem apply_map_valueIn (f : AggregateField) (data : Dataset R) (rows : List (Row R)) :
    f.op.apply (rows.map (f.valueIn data)) = f.value data rows := by
  by_cases hop : f.op = .count
  · rw [value_of_count hop, hop, AggregateOp.apply, List.length_map]
  · refine congrArg f.op.apply (List.map_congr_left fun row _ ↦ ?_)
    rw [valueIn, if_neg hop]

omit [Scalar R] in
/-- What a summary reads in a row is what is in its column. -/
theorem eq_valueIn_of_read {f : AggregateField} {data : Dataset R} {column : Option Nat}
    (hcolumn : f.inputColumn data = .ok column) {row : Row R} {v : Value R}
    (hread : read column row = .ok v) : v = f.valueIn data row := by
  rw [valueIn]
  rcases inputColumn_ok_iff.mp hcolumn with ⟨hop, rfl⟩ | ⟨hop, name, i, hinput, hi, rfl⟩
  · rw [if_pos hop]
    exact (Except.ok.inj hread).symm
  · rw [if_neg hop, hinput, Option.bind_some, Dataset.valueIn?, hi, Option.bind_some,
      Row.cell_ok_iff.mp hread, Option.getD_some]

omit [Scalar R] in
/-- What many summaries read in a row. -/
theorem eq_map_valueIn_of_mapM_ok {summaries : List AggregateField} {data : Dataset R}
    {inputs : List (Option Nat)} (hinputs : summaries.mapM (inputColumn data) = .ok inputs)
    {row : Row R} {values : List (Value R)}
    (hvalues : inputs.mapM (fun column ↦ read column row) = .ok values) :
    values = summaries.map fun f ↦ f.valueIn data row := by
  refine eq_map_of_forall₂ (forall₂_comp (mapM_ok_iff.mp hinputs) (mapM_ok_iff.mp hvalues)) ?_
  rintro f - v ⟨column, hcolumn, hread⟩
  exact eq_valueIn_of_read hcolumn hread

end AggregateField

/-! ## Both ways to aggregate -/

namespace Dataset

/-- One row for each group of rows that agree in some fields. -/
def summaryTable (data : Dataset R) (names : List String) (summaries : List AggregateField) :
    Dataset R :=
  ofRows (names.filterMap data.field? ++ summaries.map AggregateField.outputField)
    ((data.firstRows names).map fun first ↦ (data.summaryCells names summaries first).map (·.2))

/-- What is kept of a group becomes the cells of the group. -/
theorem row_ofGroup (data : Dataset R) {names : List String} (summaries : List AggregateField)
    {first : Row R} (hfirst : first ∈ data.firstRows names) (key : List (Value R)) :
    (Tally.ofGroup (data.valuesIn names) (summaries.map fun f ↦ f.valueIn data)
      (key, data.group names first)).row summaries =
        (data.summaryCells names summaries first).map (·.2) := by
  obtain ⟨rest, hgroup⟩ := peers_of_mem_distinctBy hfirst
  have hhead : (data.group names first).head? = some first := by
    rw [group, hgroup]
    rfl
  have hfinish : ∀ f : AggregateField, (((data.group names first).map fun row ↦
      (f.valueIn data row).toNumber?).foldl Accumulator.push Accumulator.empty).finish f.op =
        f.value data (data.group names first) := by
    intro f
    rw [← f.apply_map_valueIn, ← Accumulator.finish_foldl_push, List.map_map]
    rfl
  rw [Tally.row, Tally.ofGroup, hhead, summaryCells, List.map_append, List.map_map, List.map_map,
    List.map_map, List.zipWith_map_left, List.zipWith_self]
  refine congrArg₂ (· ++ ·) rfl (List.map_congr_left fun f _ ↦ ?_)
  exact hfinish f

variable {data : Dataset R} {names : List String} {summaries : List AggregateField}

namespace IsRectangular

variable (h : data.IsRectangular) {columns : List Nat} {inputs : List (Option Nat)}
  (hcolumns : names.mapM data.column = .ok columns)
  (hinputs : summaries.mapM (AggregateField.inputColumn data) = .ok inputs)

include h hcolumns hinputs

/-- Rectangular data is grouped and summarised if all columns are there. -/
theorem aggregate_eq : data.aggregate names summaries = .ok (data.summaryTable names summaries) := by
  obtain ⟨groups, hgroups⟩ := exists_ok_of_ne_error (h.groupRows_ne_error hcolumns)
  have hgroup := (groupRows_ok hcolumns hgroups).2
  have hrows : ∃ rows, groups.mapM (fun group ↦
      summarise columns (summaries.zip inputs) group.2) = .ok rows := by
    refine exists_ok_of_ne_error fun e herror ↦ ?_
    obtain ⟨⟨key, rows⟩, hmem, herror⟩ := exists_error_of_mapM_error herror
    rw [hgroup] at hmem
    obtain ⟨first, -, heq⟩ := List.mem_map.mp hmem
    obtain ⟨-, rfl⟩ := Prod.mk.inj heq
    exact h.summarise_ne_error hcolumns hinputs (fun row hrow ↦ (List.mem_filter.mp hrow).1) e herror
  obtain ⟨rows, hrows⟩ := hrows
  have hcells : rows = (data.firstRows names).map fun first ↦
      (data.summaryCells names summaries first).map (·.2) := by
    rw [hgroup] at hrows
    exact eq_map_of_forall₂ (List.forall₂_map_left_iff.mp (mapM_ok_iff.mp hrows))
      fun first hfirst values hvalues ↦ summarise_ok hcolumns hinputs hfirst hvalues
  refine bind_ok_iff.mpr ⟨columns, hcolumns, bind_ok_iff.mpr ⟨inputs, hinputs,
    bind_ok_iff.mpr ⟨groups, hgroups, bind_ok_iff.mpr ⟨rows, hrows, ?_⟩⟩⟩⟩
  rw [hcells, summaryTable]

/-- A row of rectangular data is put into the tallies. -/
theorem tallyRow_eq {row : Row R} (hrow : row ∈ data.rows) (tallies : List (Tally R)) :
    tallyRow columns inputs tallies row = .ok (Tally.insert (data.valuesIn names row)
      (Tally.readingsOf (summaries.map fun f ↦ f.valueIn data) row) tallies) := by
  obtain ⟨values, hvalues⟩ := exists_ok_of_ne_error (h.mapM_cell_ne_error hcolumns hrow)
  have hread : ∃ read, inputs.mapM (fun column ↦ AggregateField.read column row) = .ok read := by
    refine exists_ok_of_ne_error fun e herror ↦ ?_
    obtain ⟨column, hmem, herror⟩ := exists_error_of_mapM_error herror
    obtain ⟨f, hf⟩ := exists_of_forall₂ (mapM_ok_iff.mp hinputs).flip column hmem
    exact h.read_ne_error hf hrow e herror
  obtain ⟨read, hread⟩ := hread
  refine bind_ok_iff.mpr ⟨values, hvalues, bind_ok_iff.mpr ⟨read, hread, ?_⟩⟩
  rw [(valuesIn_of_mapM_ok hcolumns hvalues).2,
    AggregateField.eq_map_valueIn_of_mapM_ok hinputs hread, Tally.readingsOf, List.map_map,
    List.map_map]
  rfl

/-- Rectangular data can be summarised in one pass, with the same result. -/
theorem aggregateInOnePass_eq :
    data.aggregateInOnePass names summaries = .ok (data.summaryTable names summaries) := by
  have hpass := foldlM_eq_ok_foldl
    (fun row hrow tallies ↦ h.tallyRow_eq hcolumns hinputs hrow tallies) []
  rw [Tally.foldl_insert] at hpass
  refine bind_ok_iff.mpr ⟨columns, hcolumns, bind_ok_iff.mpr ⟨inputs, hinputs,
    bind_ok_iff.mpr ⟨_, hpass, ?_⟩⟩⟩
  rw [summaryTable, groupBy_eq, List.map_map, List.map_map]
  refine congrArg (Except.ok ∘ ofRows _) (List.map_congr_left fun first hfirst ↦ ?_)
  exact data.row_ofGroup summaries hfirst _

omit hcolumns hinputs

/-- One pass over the rows comes to the same as grouping them first, also if it fails. -/
theorem aggregateInOnePass_eq_aggregate (names : List String) (summaries : List AggregateField) :
    data.aggregateInOnePass names summaries = data.aggregate names summaries := by
  cases hcolumns : names.mapM data.column with
  | error e => rw [aggregateInOnePass, aggregate, hcolumns]; rfl
  | ok columns =>
      cases hinputs : summaries.mapM (AggregateField.inputColumn data) with
      | error e => rw [aggregateInOnePass, aggregate, hcolumns, hinputs]; rfl
      | ok inputs => rw [h.aggregateInOnePass_eq hcolumns hinputs, h.aggregate_eq hcolumns hinputs]

end IsRectangular

end Dataset

end Charting
