import Charting.Proofs.Data.OnePass
import Charting.Proofs.Indexed.Slots
import Charting.Scene.Aggregation

/-!
# Aggregation with checked reads

Rows are read in the columns of the fields that they are grouped by and that are summarised, and
each of them is put into the slot of its group.  Where every row has one value per field, nothing is
read that is not there (`Indexed.aggregate_eq`, `Indexed.prepare_eq`).
-/

namespace Charting.Indexed

variable {R : Type}

/-! ## Columns -/

/-- The columns with some names. -/
def columns (data : Dataset R) (names : List String) : Except (Fault R) (List Nat) :=
  lift ((names.mapM data.column).mapError .data)

/-- The values of a row in some columns. -/
def cells (row : Row R) (columns : List Nat) : Except (Fault R) (List (Value R)) :=
  columns.mapM (read row.values)

/-- What is in a cell is read. -/
theorem read_of_cell {row : Row R} {column : Nat} {v : Value R} (h : row.cell column = .ok v) :
    (read row.values column : Except (Fault R) (Value R)) = .ok v :=
  read_eq_ok (Row.cell_ok_iff.mp h)

/-- What is in some cells is read. -/
theorem cells_of_mapM_cell {row : Row R} {columns : List Nat} {values : List (Value R)}
    (h : columns.mapM row.cell = .ok values) : cells row columns = .ok values :=
  mapM_ok_iff.mpr ((mapM_ok_iff.mp h).imp fun _ _ ↦ read_of_cell)

/-- The first field with a name is the one at the position of the name. -/
theorem field?_eq_getElem? {data : Dataset R} {name : String} {column : Nat}
    (h : data.columnIndex? name = some column) : data.field? name = data.fields[column]? := by
  rw [Dataset.columnIndex?] at h
  rw [Dataset.field?, List.find?_eq_bind_findIdx?_getElem?, h, Option.bind_some]

/-- The columns of names that are found are their positions. -/
theorem filterMap_columnIndex? {data : Dataset R} {names : List String} {columns : List Nat}
    (h : names.mapM data.column = .ok columns) : names.filterMap data.columnIndex? = columns := by
  have hfound := mapM_ok_iff.mp h
  clear h
  induction hfound with
  | nil => rfl
  | cons hcolumn _ ih => rw [List.filterMap_cons, Dataset.column_ok_iff.mp hcolumn, ih]

/-- The fields of columns that are found are read. -/
theorem mapM_read_fields {data : Dataset R} {names : List String} {columns : List Nat}
    (h : names.mapM data.column = .ok columns) :
    columns.mapM (read data.fields : Nat → Except (Fault R) Field) =
      .ok (names.filterMap data.field?) := by
  have hfound := mapM_ok_iff.mp h
  clear h
  induction hfound with
  | nil => rfl
  | @cons name column names columns hcolumn _ ih =>
      have hindex := Dataset.column_ok_iff.mp hcolumn
      have hfield := List.getElem?_eq_getElem (Dataset.lt_length_fields hindex)
      rw [List.mapM_cons, read_eq_ok hfield, ih, List.filterMap_cons, field?_eq_getElem? hindex,
        hfield]
      rfl

/-- The values of some rows in a column. -/
def columnValues (rows : List (Row R)) (column : Nat) : Except (Fault R) (List (Value R)) :=
  rows.mapM fun row => read row.values column

/-- Rows of rectangular data have values in a column that is found. -/
theorem columnValues_eq_ok {data : Dataset R} (h : data.IsRectangular) {name : String}
    {column : Nat} (hcolumn : data.columnIndex? name = some column) {rows : List (Row R)}
    (hrows : ∀ row ∈ rows, row ∈ data.rows) :
    (columnValues rows column : Except (Fault R) (List (Value R))) =
      .ok (rows.filterMap (·.values[column]?)) :=
  mapM_read_eq_ok fun row hrow ↦ h.lt_length_values hcolumn (hrows row hrow)

variable [Scalar R]

/-! ## Summaries -/

/-- The value that a summary reads in a row. -/
def input (row : Row R) (column : Option Nat) : Except (Fault R) (Value R) :=
  match column with
  | some i => read row.values i
  | none => .ok .null

/-- One more row: it is put into the slot of its group, and its readings are added to the
accumulators there. -/
def tallyRow (columns : List Nat) (inputs : List (Option Nat))
    (s : Slots (List (Value R)) (Tally R)) (row : Row R) :
    Except (Fault R) (Slots (List (Value R)) (Tally R)) := do
  let values ← cells row columns
  let inputValues ← inputs.mapM (input row)
  let key := values.map Value.key
  s.put key ⟨key, values, inputs.map fun _ => Accumulator.empty⟩
    (·.push (inputValues.map Value.toNumber?))

/-- One row per group, with summaries over the group. -/
def aggregate (data : Dataset R) (names : List String) (summaries : List AggregateField) :
    Except (Fault R) (Dataset R) := do
  let columns ← columns data names
  let inputs ← lift ((summaries.mapM (AggregateField.inputColumn data)).mapError .data)
  let s ← data.rows.foldlM (tallyRow columns inputs) Slots.empty
  let fields ← columns.mapM (read data.fields)
  .ok (.ofRows (fields ++ summaries.map AggregateField.outputField)
    (s.groups.map (Tally.row summaries)))

/-- The tallies of groups, with the keys of these. -/
def keyed (tallies : List (Tally R)) : List (List (Value R) × Tally R) :=
  tallies.map fun t ↦ (t.key, t)

/-- A row is put into its slot as it is put among the tallies. -/
theorem keyed_insert (values : List (Value R)) (readings : List (Option R))
    (tallies : List (Tally R)) :
    keyed (Tally.insert values readings tallies) = updateGroup (values.map Value.key)
      ⟨values.map Value.key, values, readings.map fun _ ↦ Accumulator.empty⟩ (·.push readings)
      (keyed tallies) := by
  induction tallies with
  | nil =>
      have hpush : readings.map Accumulator.empty.push =
          (readings.map fun _ ↦ Accumulator.empty).zipWith Accumulator.push readings := by
        rw [List.zipWith_map_left, List.zipWith_self]
      rw [Tally.insert, Tally.start, hpush]
      rfl
  | cons t tallies ih =>
      rw [keyed, keyed, List.map_cons, updateGroup, Tally.insert]
      by_cases hkey : t.key = values.map Value.key
      · rw [if_pos hkey, if_pos hkey, List.map_cons, ← hkey]
        rfl
      · rw [if_neg hkey, if_neg hkey, List.map_cons]
        exact congrArg _ ih

/-- A row is put into its slot if it can be put among the tallies. -/
theorem tallyRow_eq_ok {columns : List Nat} {inputs : List (Option Nat)} {row : Row R}
    {s : Slots (List (Value R)) (Tally R)} {tallies tallies' : List (Tally R)}
    (hs : s.Holds (keyed tallies))
    (h : Dataset.tallyRow columns inputs tallies row = .ok tallies') :
    ∃ s', tallyRow columns inputs s row = .ok s' ∧ s'.Holds (keyed tallies') := by
  obtain ⟨values, hvalues, h⟩ := bind_ok_iff.mp h
  obtain ⟨inputValues, hinputs, h⟩ := bind_ok_iff.mp h
  have hread : inputs.mapM (input row : Option Nat → Except (Fault R) (Value R)) =
      .ok inputValues := by
    refine mapM_ok_iff.mpr ((mapM_ok_iff.mp hinputs).imp ?_)
    rintro (_ | i) v hv
    · exact congrArg Except.ok (Except.ok.inj hv)
    · exact read_of_cell hv
  -- There are as many new accumulators as there are readings.
  have hlength : inputs.map (fun _ ↦ (Accumulator.empty : Accumulator R)) =
      (inputValues.map Value.toNumber?).map fun _ ↦ Accumulator.empty := by
    simp only [List.map_const', List.length_map, (mapM_ok_iff.mp hinputs).length_eq]
  obtain ⟨s', hput, hs'⟩ := hs.put_eq_ok (R := R) (values.map Value.key)
    ⟨values.map Value.key, values, inputs.map fun _ ↦ Accumulator.empty⟩
    (·.push (inputValues.map Value.toNumber?))
  refine ⟨s', bind_ok_iff.mpr ⟨values, cells_of_mapM_cell hvalues,
    bind_ok_iff.mpr ⟨inputValues, hread, hput⟩⟩, ?_⟩
  rw [← Except.ok.inj h, keyed_insert, ← hlength]
  exact hs'

/-- Rectangular data is aggregated without reading what is not there. -/
theorem aggregate_eq {data : Dataset R} (h : data.IsRectangular) (names : List String)
    (summaries : List AggregateField) :
    aggregate data names summaries = lift ((data.aggregate names summaries).mapError .data) := by
  rw [← h.aggregateInOnePass_eq_aggregate]
  cases hcolumns : names.mapM data.column with
  | error e => rw [aggregate, columns, Dataset.aggregateInOnePass, hcolumns]; rfl
  | ok columns =>
      cases hinputs : summaries.mapM (AggregateField.inputColumn data) with
      | error e =>
          rw [aggregate, Indexed.columns, Dataset.aggregateInOnePass, hcolumns, hinputs]
          rfl
      | ok inputs =>
          have hpass : data.aggregateInOnePass names summaries = (do
              let tallies ← data.rows.foldlM (Dataset.tallyRow columns inputs) []
              .ok (.ofRows (names.filterMap data.field? ++ summaries.map AggregateField.outputField)
                (tallies.map (Tally.row summaries)))) := by
            rw [Dataset.aggregateInOnePass, hcolumns, hinputs]
            rfl
          obtain ⟨tallies, htallies, -⟩ := bind_ok_iff.mp
            (hpass.symm.trans (h.aggregateInOnePass_eq hcolumns hinputs))
          obtain ⟨s, hs, hholds⟩ := foldlM_simulates (f := tallyRow columns inputs)
            (P := fun s tallies ↦ s.Holds (keyed tallies))
            (fun row _ s tallies tallies' ↦ tallyRow_eq_ok) Slots.holds_empty htallies
          have hgroups : s.groups = tallies := by
            rw [hholds.groups_eq, keyed, List.map_map]
            exact List.map_id _
          rw [hpass, htallies, aggregate, Indexed.columns, hcolumns, hinputs]
          refine bind_ok_iff.mpr ⟨columns, rfl, bind_ok_iff.mpr ⟨inputs, rfl,
            bind_ok_iff.mpr ⟨s, hs, bind_ok_iff.mpr ⟨_, mapM_read_fields hcolumns, ?_⟩⟩⟩⟩
          rw [hgroups]

/-! ## Rows behind groups -/

/-- The keys of the rows of each group. -/
def members (data : Dataset R) (names : List String) : Except (Fault R) (List (List Nat)) := do
  let columns := names.filterMap data.columnIndex?
  let tagged ← data.rows.mapM fun row => do
    let values ← cells row columns
    .ok (values.map Value.key, row.key)
  let groups ← groupBy (·.1) tagged
  .ok (groups.map (·.map (·.2)))

/-- Rows that can be grouped are read. -/
theorem members_eq_ok {data : Dataset R} {names : List String} {columns : List Nat}
    (hcolumns : names.mapM data.column = .ok columns)
    {groups : List (List (Value R) × List (Row R))}
    (hgroups : data.groupRows columns = .ok groups) :
    members data names = .ok (groups.map fun group ↦ group.2.map (·.key)) := by
  obtain ⟨tagged, htagged, hgroups⟩ := bind_ok_iff.mp hgroups
  have hread : (data.rows.mapM fun row ↦ do
      let values ← cells row columns
      .ok (values.map Value.key, row.key) : Except (Fault R) _) =
      .ok (tagged.map fun t ↦ (t.1, t.2.key)) := by
    refine mapM_ok_iff.mpr (List.forall₂_map_right_iff.mpr ((mapM_ok_iff.mp htagged).imp ?_))
    intro row t ht
    obtain ⟨values, hvalues, ht⟩ := bind_ok_iff.mp ht
    rw [← Except.ok.inj ht]
    exact bind_ok_iff.mpr ⟨values, cells_of_mapM_cell hvalues, rfl⟩
  rw [members, filterMap_columnIndex? hcolumns]
  refine bind_ok_iff.mpr ⟨_, hread, bind_ok_iff.mpr ⟨_, groupBy_eq_ok _ _, ?_⟩⟩
  rw [← Except.ok.inj hgroups, groupBy_map]
  simp only [List.map_map, Function.comp_def]

/-! ## Preparation -/

/-- The view and the data that it is drawn over. -/
def prepare (view : ViewSpec R) (data : Dataset R) : Except (Fault R) (PreparedView R) := do
  if !view.isAggregated then .ok ⟨view, data, none⟩
  else
    lift (view.fieldBindings.forM (FieldBinding.checkField data))
    let result ← aggregate data view.groupNames view.summaries
    let members ← members data view.groupNames
    .ok ⟨view.aggregated, result, some (result.keys.zip members)⟩

/-- Rectangular data is prepared without reading what is not there. -/
theorem prepare_eq (view : ViewSpec R) {data : Dataset R} (h : data.IsRectangular) :
    prepare view data = lift (view.prepare data) := by
  rw [prepare, ViewSpec.prepare]
  split
  case isTrue => rfl
  case isFalse =>
    refine bind_lift rfl fun _ _ ↦ bind_lift (aggregate_eq h _ _) fun result hresult ↦ ?_
    obtain ⟨columns, hcolumns, hresult⟩ := bind_ok_iff.mp (mapError_ok_iff.mp hresult)
    obtain ⟨inputs, -, hresult⟩ := bind_ok_iff.mp hresult
    obtain ⟨groups, hgroups, -⟩ := bind_ok_iff.mp hresult
    rw [members_eq_ok hcolumns hgroups, ViewSpec.groupMembers, hcolumns]
    dsimp only [bind, Except.bind]
    rw [hgroups]
    rfl

end Charting.Indexed
