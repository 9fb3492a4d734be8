import Charting.Data.Aggregate
import Charting.Proofs.Data.Grouping
import Charting.Proofs.Success

/-!
# Laws of aggregation

Rows are grouped by the keys of their values in some fields, and a group is known from its first row
(`Dataset.firstRows`, `Dataset.group`).  Aggregated data has one row for each group, which is made
of named cells: the values of the first row in the grouping fields, and then the summaries over the
group (`Dataset.IsAggregate`).

A column is found by the first field with its name.  A grouping field therefore hides a summary that
has the same name (`Dataset.IsAggregate.valueIn?_of_mem`), and summaries can be read under all other
names (`Dataset.IsAggregate.valueIn?_output`).
-/

namespace Charting

variable {R : Type}

theorem Row.cell_ok_iff {row : Row R} {column : Nat} {v : Value R} :
    row.cell column = .ok v ↔ row.values[column]? = some v := by
  rw [Row.cell]
  cases row.values[column]? <;> simp

namespace Dataset

theorem column_ok_iff {data : Dataset R} {name : String} {i : Nat} :
    data.column name = .ok i ↔ data.columnIndex? name = some i := by
  rw [column]
  cases data.columnIndex? name <;> simp

/-! ## Values by name -/

/-- The value of a field in a row. -/
def valueIn? (data : Dataset R) (name : String) (row : Row R) : Option (Value R) :=
  (data.columnIndex? name).bind (row.values[·]?)

/-- The values of some fields in a row. -/
def valuesIn (data : Dataset R) (names : List String) (row : Row R) : List (Value R) :=
  names.map fun name ↦ (data.valueIn? name row).getD .null

/-- The values of a row in the columns of some fields are its values of these fields. -/
theorem valuesIn_of_mapM_ok {data : Dataset R} {names : List String} {columns : List Nat}
    (hcolumns : names.mapM data.column = .ok columns) {row : Row R} {values : List (Value R)}
    (hvalues : columns.mapM row.cell = .ok values) :
    (∀ name ∈ names, (data.valueIn? name row).isSome) ∧ values = data.valuesIn names row := by
  have hfound := mapM_ok_iff.mp hcolumns
  clear hcolumns
  have hread := mapM_ok_iff.mp hvalues
  clear hvalues
  induction hfound generalizing values with
  | nil =>
      cases hread
      exact ⟨by simp, rfl⟩
  | @cons name column names columns hcolumn _ ih =>
      rcases hread with _ | @⟨_, v, _, values, hvalue, hread⟩
      obtain ⟨hnames, rfl⟩ := ih hread
      have hname : data.valueIn? name row = some v := by
        rw [valueIn?, column_ok_iff.mp hcolumn]
        exact Row.cell_ok_iff.mp hvalue
      refine ⟨List.forall_mem_cons.mpr ⟨by rw [hname]; rfl, hnames⟩, ?_⟩
      rw [valuesIn, valuesIn, List.map_cons, hname]
      rfl

/-- If the cells of a row and the fields have the same names, then a value is found in the first
cell with its name. -/
theorem valueIn?_of_cells {data : Dataset R} {row : Row R} {cells : List (String × Value R)}
    (hnames : data.fields.map (·.name) = cells.map (·.1)) (hvalues : row.values = cells.map (·.2))
    (name : String) : data.valueIn? name row = (cells.find? (·.1 == name)).map (·.2) := by
  have hindex : data.columnIndex? name = cells.findIdx? (·.1 == name) := by
    have hmap : (data.fields.map (·.name)).findIdx? (· == name) =
        (cells.map (·.1)).findIdx? (· == name) := by
      rw [hnames]
    rw [List.findIdx?_map, List.findIdx?_map] at hmap
    exact hmap
  rw [valueIn?, hindex, hvalues, List.find?_eq_bind_findIdx?_getElem?, Option.map_bind]
  refine congrArg _ (funext fun i ↦ ?_)
  rw [List.getElem?_map]
  rfl

end Dataset

variable [Scalar R]

namespace Dataset

/-! ## Groups of rows -/

/-- What tells the group of a row from others. -/
def groupKey (data : Dataset R) (names : List String) (row : Row R) : List (Value R) :=
  (data.valuesIn names row).map Value.key

/-- The first row of each group. -/
def firstRows (data : Dataset R) (names : List String) : List (Row R) :=
  distinctBy (data.groupKey names) data.rows

/-- The group of a row. -/
def group (data : Dataset R) (names : List String) (row : Row R) : List (Row R) :=
  peers (data.groupKey names) data.rows row

theorem firstRows_sublist (data : Dataset R) (names : List String) :
    (data.firstRows names).Sublist data.rows := distinctBy_sublist _ _

/-- The groups of the rows are known from their first rows. -/
theorem groupRows_ok {data : Dataset R} {names : List String} {columns : List Nat}
    (hcolumns : names.mapM data.column = .ok columns) {groups : List (List (Value R) × List (Row R))}
    (h : data.groupRows columns = .ok groups) :
    (∀ row ∈ data.rows, ∀ name ∈ names, (data.valueIn? name row).isSome) ∧
      groups = (data.firstRows names).map fun row ↦
        (data.groupKey names row, data.group names row) := by
  obtain ⟨tagged, htagged, h⟩ := bind_ok_iff.mp h
  have htag : ∀ row ∈ data.rows, ∀ t, (do
      let values ← columns.mapM row.cell
      .ok (values.map Value.key, row)) = Except.ok t →
      (∀ name ∈ names, (data.valueIn? name row).isSome) ∧ t = (data.groupKey names row, row) := by
    intro row _ t ht
    obtain ⟨values, hvalues, ht⟩ := bind_ok_iff.mp ht
    obtain ⟨hnames, rfl⟩ := valuesIn_of_mapM_ok hcolumns hvalues
    exact ⟨hnames, (Except.ok.inj ht).symm⟩
  constructor
  · intro row hrow
    obtain ⟨t, ht⟩ := exists_ok_of_mapM_ok htagged row hrow
    exact (htag row hrow t ht).1
  · rw [eq_map_of_mapM_ok htagged fun row hrow t ht ↦ (htag row hrow t ht).2, groupBy_map,
      List.map_map, groupBy_eq, List.map_map] at h
    rw [← Except.ok.inj h]
    refine List.map_congr_left fun row _ ↦ ?_
    simp [group, groupKey, peers, Function.comp_def]

end Dataset

namespace AggregateField

/-! ## Summaries -/

omit [Scalar R] in
/-- A summary reads the column of its field, which has to be there, and a count reads none. -/
theorem inputColumn_ok_iff {f : AggregateField} {data : Dataset R} {column : Option Nat} :
    f.inputColumn data = .ok column ↔
      f.op = .count ∧ column = none ∨
        f.op ≠ .count ∧ ∃ name i, f.input = some name ∧ data.columnIndex? name = some i ∧
          column = some i := by
  obtain ⟨op, input, output⟩ := f
  cases op <;> cases input <;>
    simp [inputColumn, bind_ok_iff, Dataset.column_ok_iff, eq_comm (b := column)]

/-- The summary of a group of rows. -/
def value (f : AggregateField) (data : Dataset R) (rows : List (Row R)) : Value R :=
  f.op.apply (rows.map fun row ↦ (f.input.bind fun name ↦ data.valueIn? name row).getD .null)

/-- A count depends on the number of rows only. -/
theorem value_of_count {f : AggregateField} (hf : f.op = .count) (data : Dataset R)
    (rows : List (Row R)) : f.value data rows = .number (Scalar.ofNat rows.length) := by
  rw [value, hf, AggregateOp.apply, List.length_map]

/-- What a summary comes to if the values that it reads are there. -/
theorem value_of_mapM_ok {f : AggregateField} {data : Dataset R} {column : Option Nat}
    (hcolumn : f.inputColumn data = .ok column) {rows : List (Row R)} {values : List (Value R)}
    (hvalues : rows.mapM (read column) = .ok values) : f.op.apply values = f.value data rows := by
  rcases inputColumn_ok_iff.mp hcolumn with ⟨hop, rfl⟩ | ⟨-, name, i, hinput, hi, rfl⟩
  · rw [value_of_count hop, hop, AggregateOp.apply, (mapM_ok_iff.mp hvalues).length_eq]
  · rw [value, hinput, eq_map_of_mapM_ok hvalues]
    intro row _ v hv
    rw [Option.bind_some, Dataset.valueIn?, hi, Option.bind_some, Row.cell_ok_iff.mp hv]
    rfl

/-- What many summaries come to if the values that they read are there. -/
theorem map_value_of_mapM_ok {summaries : List AggregateField} {data : Dataset R}
    {inputs : List (Option Nat)} (hinputs : summaries.mapM (inputColumn data) = .ok inputs)
    {rows : List (Row R)} {results : List (Value R)}
    (hresults : (summaries.zip inputs).mapM (fun (f, column) ↦ do
      let values ← rows.mapM (read column)
      .ok (f.op.apply values)) = .ok results) :
    results = summaries.map (·.value data rows) := by
  have hcolumns := mapM_ok_iff.mp hinputs
  clear hinputs
  induction hcolumns generalizing results with
  | nil => exact (Except.ok.inj hresults).symm
  | @cons f column summaries inputs hcolumn _ ih =>
      rw [List.zip_cons_cons, List.mapM_cons] at hresults
      obtain ⟨result, hresult, hresults⟩ := bind_ok_iff.mp hresults
      obtain ⟨results, hrest, hresults⟩ := bind_ok_iff.mp hresults
      obtain ⟨values, hvalues, hresult⟩ := bind_ok_iff.mp hresult
      rw [← Except.ok.inj hresults, ← Except.ok.inj hresult, List.map_cons, ih hrest,
        value_of_mapM_ok hcolumn hvalues]

end AggregateField

namespace Dataset

/-! ## Aggregated data -/

/-- The cells of the row of a group, of which the first row is given: the values of this row in the
grouping fields, and then the summaries over the group. -/
def summaryCells (data : Dataset R) (names : List String) (summaries : List AggregateField)
    (first : Row R) : List (String × Value R) :=
  names.map (fun name ↦ (name, (data.valueIn? name first).getD .null)) ++
    summaries.map fun f ↦ (f.output, f.value data (data.group names first))

/-- A row that stands for a group is made of the cells of the group. -/
theorem summarise_ok {data : Dataset R} {names : List String} {columns : List Nat}
    (hcolumns : names.mapM data.column = .ok columns) {summaries : List AggregateField}
    {inputs : List (Option Nat)}
    (hinputs : summaries.mapM (AggregateField.inputColumn data) = .ok inputs) {first : Row R}
    (hfirst : first ∈ data.firstRows names) {values : List (Value R)}
    (h : summarise columns (summaries.zip inputs) (data.group names first) = .ok values) :
    values = (data.summaryCells names summaries first).map (·.2) := by
  obtain ⟨rest, hgroup⟩ := peers_of_mem_distinctBy hfirst
  rw [group, hgroup] at h
  obtain ⟨own, hown, h⟩ := bind_ok_iff.mp h
  obtain ⟨results, hresults, h⟩ := bind_ok_iff.mp h
  rw [← hgroup] at hresults
  have hown : own = data.valuesIn names first := (valuesIn_of_mapM_ok hcolumns hown).2
  have hresults := AggregateField.map_value_of_mapM_ok hinputs hresults
  rw [← Except.ok.inj h, hown, hresults, summaryCells, List.map_append, List.map_map, List.map_map]
  rfl

/-- The first dataset has one row for each group of rows of another that agree in some fields. -/
structure IsAggregate (result data : Dataset R) (names : List String)
    (summaries : List AggregateField) : Prop where
  /-- Every row has a value in each grouping field. -/
  isSome : ∀ row ∈ data.rows, ∀ name ∈ names, (data.valueIn? name row).isSome
  /-- The columns are the grouping fields and then the summaries. -/
  names_eq : result.fields.map (·.name) = names ++ summaries.map (·.output)
  /-- The rows are made of the cells of the groups. -/
  rows_eq : result.rows = (data.firstRows names).zipIdx.map fun (first, i) ↦
    ⟨i, (data.summaryCells names summaries first).map (·.2)⟩

omit [Scalar R] in
/-- Fields are found under their names. -/
theorem map_name_filterMap_field? {data : Dataset R} {names : List String} {columns : List Nat}
    (hcolumns : names.mapM data.column = .ok columns) :
    (names.filterMap data.field?).map (·.name) = names := by
  have hfound := mapM_ok_iff.mp hcolumns
  clear hcolumns
  induction hfound with
  | nil => rfl
  | @cons name column names columns hcolumn _ ih =>
      have hsome : (data.field? name).isSome := by
        rw [field?, List.find?_eq_bind_findIdx?_getElem?]
        have hindex := column_ok_iff.mp hcolumn
        rw [columnIndex?] at hindex
        rw [hindex]
        obtain ⟨hlt, -⟩ := List.findIdx?_eq_some_iff_getElem.mp hindex
        simp [hlt]
      obtain ⟨field, hfield⟩ := Option.isSome_iff_exists.mp hsome
      have hname : field.name = name := by
        rw [field?] at hfield
        simpa using List.find?_some hfield
      rw [List.filterMap_cons, hfield, List.map_cons, ih, hname]

/-- Aggregation makes one row for each group. -/
theorem aggregate_ok {data result : Dataset R} {names : List String}
    {summaries : List AggregateField} (h : data.aggregate names summaries = .ok result) :
    result.IsAggregate data names summaries := by
  obtain ⟨columns, hcolumns, h⟩ := bind_ok_iff.mp h
  obtain ⟨inputs, hinputs, h⟩ := bind_ok_iff.mp h
  obtain ⟨groups, hgroups, h⟩ := bind_ok_iff.mp h
  obtain ⟨rows, hrows, h⟩ := bind_ok_iff.mp h
  obtain ⟨hvalues, heq⟩ := groupRows_ok hcolumns hgroups
  rw [heq] at hrows
  rw [← Except.ok.inj h]
  refine ⟨hvalues, ?_, ?_⟩
  · rw [ofRows, List.map_append, map_name_filterMap_field? hcolumns, List.map_map]
    rfl
  · have hrows : rows = (data.firstRows names).map fun first ↦
        (data.summaryCells names summaries first).map (·.2) :=
      eq_map_of_forall₂ (List.forall₂_map_left_iff.mp (mapM_ok_iff.mp hrows))
        fun first hfirst values hvalues ↦ summarise_ok hcolumns hinputs hfirst hvalues
    rw [ofRows, hrows, List.zipIdx_map, List.map_map]
    rfl

/-! ## Reading aggregated data -/

namespace IsAggregate

variable {data result : Dataset R} {names : List String} {summaries : List AggregateField}

theorem length_eq (h : result.IsAggregate data names summaries) :
    result.rows.length = (data.firstRows names).length := by
  rw [h.rows_eq, List.length_map, List.length_zipIdx]

theorem keys_eq (h : result.IsAggregate data names summaries) :
    result.keys = List.range (data.firstRows names).length := by
  rw [keys, h.rows_eq, List.map_map, List.range_eq_range']
  exact List.zipIdx_map_snd 0 _

/-- Where the row of a group is found. -/
theorem getElem?_rows (h : result.IsAggregate data names summaries) (i : Nat) :
    result.rows[i]? = (data.firstRows names)[i]?.map fun first ↦
      ⟨i, (data.summaryCells names summaries first).map (·.2)⟩ := by
  rw [h.rows_eq, List.getElem?_map, List.getElem?_zipIdx, Option.map_map, Nat.zero_add]
  rfl

/-- Every row is the row of a group, and has its number as its key. -/
theorem key_eq_of_getElem? (h : result.IsAggregate data names summaries) {i : Nat} {drawn : Row R}
    (hdrawn : result.rows[i]? = some drawn) :
    drawn.key = i ∧ ∃ first, (data.firstRows names)[i]? = some first := by
  rw [h.getElem?_rows] at hdrawn
  obtain ⟨first, hfirst, rfl⟩ := Option.map_eq_some_iff.mp hdrawn
  exact ⟨rfl, first, hfirst⟩

/-- The row of a group is read by the names of its cells. -/
theorem valueIn?_eq (h : result.IsAggregate data names summaries) {i : Nat} {first : Row R}
    (hfirst : (data.firstRows names)[i]? = some first) {drawn : Row R}
    (hdrawn : result.rows[i]? = some drawn) (name : String) :
    result.valueIn? name drawn =
      ((data.summaryCells names summaries first).find? (·.1 == name)).map (·.2) := by
  rw [h.getElem?_rows, hfirst, Option.map_some, Option.some_inj] at hdrawn
  refine valueIn?_of_cells ?_ (by rw [← hdrawn]) name
  rw [h.names_eq, summaryCells, List.map_append, List.map_map, List.map_map]
  exact congrArg (· ++ _) (List.map_id _).symm

/-- A grouping field is read as it was in the first row of the group. -/
theorem valueIn?_of_mem (h : result.IsAggregate data names summaries) {i : Nat} {first : Row R}
    (hfirst : (data.firstRows names)[i]? = some first) {drawn : Row R}
    (hdrawn : result.rows[i]? = some drawn) {name : String} (hname : name ∈ names) :
    result.valueIn? name drawn = data.valueIn? name first := by
  have hfind : names.find? (· == name) = some name := by
    have hsome : (names.find? (· == name)).isSome :=
      List.find?_isSome.mpr ⟨name, hname, beq_self_eq_true name⟩
    obtain ⟨found, hfound⟩ := Option.isSome_iff_exists.mp hsome
    have heq : found = name := by simpa using List.find?_some hfound
    rw [hfound, heq]
  obtain ⟨v, hv⟩ := Option.isSome_iff_exists.mp (h.isSome first
    ((data.firstRows_sublist names).subset (List.mem_of_getElem? hfirst)) name hname)
  rw [h.valueIn?_eq hfirst hdrawn, summaryCells, List.find?_append, List.find?_map]
  change ((Option.map _ (names.find? (· == name))).or _).map _ = _
  rw [hfind, hv]
  simp [hv]

/-- A summary is read under its name, unless a grouping field has that name. -/
theorem valueIn?_output (h : result.IsAggregate data names summaries) {i : Nat} {first : Row R}
    (hfirst : (data.firstRows names)[i]? = some first) {drawn : Row R}
    (hdrawn : result.rows[i]? = some drawn) {f : AggregateField}
    (hf : summaries.find? (·.output == f.output) = some f) (hname : f.output ∉ names) :
    result.valueIn? f.output drawn = some (f.value data (data.group names first)) := by
  have hnone : names.find? (· == f.output) = none := by
    rw [List.find?_eq_none]
    intro name hmem heq
    exact hname (eq_of_beq heq ▸ hmem)
  rw [h.valueIn?_eq hfirst hdrawn, summaryCells, List.find?_append, List.find?_map, List.find?_map]
  change ((Option.map _ (names.find? (· == f.output))).or
    (Option.map _ (summaries.find? (·.output == f.output)))).map _ = _
  rw [hnone, hf]
  rfl

end IsAggregate

end Dataset

end Charting
