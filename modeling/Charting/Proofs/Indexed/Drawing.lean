import Charting.Proofs.Indexed.Facets
import Charting.Scene.Compile

/-!
# Drawing with checked reads

The fields of bindings and the values of rows are read where the columns of the bindings have been
found, rows are joined into series by slots, and channels into legends by looking for a legend of
the same field.  Marks look at the values of rows only in the columns of encodings, so that these
are looked up before anything is drawn.  What is drawn is the same as without checks
(`Indexed.plots_eq`).
-/

namespace Charting.Indexed

variable {R : Type}

/-! ## Legends of the same field -/

section Join

variable {α κ : Type} [DecidableEq κ]

/-- An element is added to the group of its key, which is looked for among the groups. -/
def join (k : κ) (x : α) (groups : List (κ × List α)) :
    Except (Fault R) (List (κ × List α)) :=
  match groups.findIdx? (·.1 = k) with
  | some i => modify groups i fun g => (g.1, g.2 ++ [x])
  | none => .ok (groups ++ [(k, [x])])

theorem join_eq_ok (k : κ) (x : α) (groups : List (κ × List α)) :
    (join k x groups : Except (Fault R) (List (κ × List α))) = .ok (insertInGroup k x groups) := by
  rw [join, insertInGroup_eq_updateGroup]
  cases hk : groups.findIdx? (·.1 = k) with
  | none => rw [updateGroup_of_findIdx?_eq_none hk]; rfl
  | some i =>
      obtain ⟨g, hg, hupdate⟩ := updateGroup_of_findIdx?_eq_some hk [] (· ++ [x])
      rw [hupdate]
      exact modify_eq_ok hg _

end Join

variable [Scalar R]

/-- The legends; channels that show the same field share one. -/
def legends (encodings : Encodings R) (config : Config R) : Except (Fault R) (List (Legend R)) := do
  let groups ← encodings.legendFields.foldlM
    (fun groups f => join (f.binding.field, f.type) f groups) []
  .ok <| groups.filterMap fun (_, fields) =>
    match fields with
    | first :: rest => some (Legend.ofFields first rest config)
    | [] => none

/-- The axes and legends. -/
def guides (encodings : Encodings R) (config : Config R) : Except (Fault R) (Guides R) := do
  let legends ← legends encodings config
  .ok ⟨encodings.axes config, legends⟩

theorem guides_eq_ok (encodings : Encodings R) (config : Config R) :
    guides encodings config = .ok (encodings.guides config) := by
  have hgroups := foldlM_eq_ok_foldl (ε := Fault R)
    (fun f (_ : f ∈ encodings.legendFields) groups ↦
      join_eq_ok (f.binding.field, f.type) f groups) []
  rw [guides, legends, hgroups]
  rfl

/-! ## Encodings -/

/-- The encoding of a field over some rows. -/
def resolveField (b : FieldBinding R) (mark : MarkKind) (data : Dataset R) (rows : List (Row R))
    (extent : Size R) (config : Config R) : Except (Fault R) (FieldEncoding R) :=
  match data.columnIndex? b.field with
  | none => .error (.failed (.unknownField b.channel b.field))
  | some column => do
    let field ← read data.fields column
    let values ← columnValues rows column
    lift (b.resolveIn mark column field values extent config)

/-- The encoding of a binding over some rows. -/
def resolveBinding (b : Binding R) (mark : MarkKind) (data : Dataset R) (rows : List (Row R))
    (extent : Size R) (config : Config R) : Except (Fault R) (Encoding R) :=
  match b with
  | .constant channel v => lift ((Constant.parse channel v).map (.constant channel))
  | .field b => (resolveField b mark data rows extent config).map .field

/-- The encodings of a view over some rows. -/
def resolve (p : PreparedView R) (rows : List (Row R)) (size : Size R) (config : Config R) :
    Except (Fault R) (Encodings R) := do
  lift p.view.checkChannels
  p.view.encodings.mapM fun b => resolveBinding b p.view.mark.kind p.data rows size config

/-- Fields of rectangular data are resolved over some of its rows. -/
theorem resolveField_eq (b : FieldBinding R) (mark : MarkKind) {data : Dataset R}
    (h : data.IsRectangular) {rows : List (Row R)} (hrows : ∀ row ∈ rows, row ∈ data.rows)
    (extent : Size R) (config : Config R) :
    resolveField b mark data rows extent config =
      lift (b.resolve mark data rows extent config) := by
  rw [resolveField, FieldBinding.resolve]
  cases hcolumn : data.columnIndex? b.field with
  | none => rfl
  | some column =>
      have hfield := List.getElem?_eq_getElem (Dataset.lt_length_fields hcolumn)
      have hvalues := columnValues_eq_ok (R := R) h hcolumn hrows
      simp only [read_eq_ok hfield, field?_eq_getElem? hcolumn, hfield, Option.getD_some, hvalues]
      rfl

theorem resolve_eq (p : PreparedView R) (h : p.data.IsRectangular) {rows : List (Row R)}
    (hrows : ∀ row ∈ rows, row ∈ p.data.rows) (size : Size R) (config : Config R) :
    resolve p rows size config = lift (p.resolve rows size config) := by
  refine bind_lift rfl fun _ _ ↦ mapM_eq_lift fun b _ ↦ ?_
  cases b with
  | constant channel v => rfl
  | field b => exact map_eq_lift (resolveField_eq b _ h hrows _ _) _

/-! ## Marks -/

/-- The marks of some rows. -/
def marks (d : Drawing R) (rows : List (Row R)) : Except (Fault R) (List (Mark R)) := do
  lift (d.mark.kind.checkChannels d.encodings)
  let rows := d.encodings.drawOrder rows
  if d.mark.kind.isSeries then
    let series ← groupBy d.seriesKey rows
    .ok (series.filterMap d.seriesMark?)
  else .ok (rows.filterMap d.markOf?)

theorem marks_eq (d : Drawing R) (rows : List (Row R)) : marks d rows = lift (d.marks rows) := by
  refine bind_lift rfl fun _ _ ↦ ?_
  rw [Drawing.marksInOrder]
  split
  case isTrue =>
    rw [lift_ok]
    refine bind_ok_iff.mpr ⟨_, groupBy_eq_ok _ _, ?_⟩
    rw [List.filterMap_map]
    rfl
  case isFalse => rfl

/-! ## Values of rows -/

/-- The value of a field in a row. -/
def fieldValue (f : FieldEncoding R) (row : Row R) : Except (Fault R) (Value R) :=
  match f.value? row with
  | some v => .ok v
  | none => .error (.outOfBounds f.column row.values.length)

/-- All values that marks of some rows can look at. -/
def fieldValues (encodings : Encodings R) (rows : List (Row R)) :
    Except (Fault R) (List (List (Value R))) :=
  rows.mapM fun row => encodings.fields.mapM fun f => fieldValue f row

/-- An encoding looks at the column of its field. -/
theorem column_of_resolveField {b : FieldBinding R} {mark : MarkKind} {data : Dataset R}
    {rows : List (Row R)} {extent : Size R} {config : Config R} {f : FieldEncoding R}
    (h : b.resolve mark data rows extent config = .ok f) :
    data.columnIndex? b.field = some f.column := by
  cases hcolumn : data.columnIndex? b.field with
  | none =>
      rw [FieldBinding.resolve_of_columnIndex?_none hcolumn] at h
      cases h
  | some column =>
      rw [FieldBinding.resolve_of_columnIndex? hcolumn] at h
      obtain ⟨-, -, h⟩ := bind_ok_iff.mp h
      obtain ⟨scale, -, h⟩ := bind_ok_iff.mp h
      rw [← Except.ok.inj h]

/-- The encodings of a view look at columns of the data. -/
theorem exists_column_of_resolve {p : PreparedView R} {rows : List (Row R)} {size : Size R}
    {config : Config R} {encodings : Encodings R} (h : p.resolve rows size config = .ok encodings)
    {f : FieldEncoding R} (hf : f ∈ encodings.fields) :
    ∃ name, p.data.columnIndex? name = some f.column := by
  obtain ⟨-, -, h⟩ := bind_ok_iff.mp h
  obtain ⟨e, he, hf⟩ := List.mem_filterMap.mp hf
  obtain ⟨b, hb⟩ := exists_of_forall₂ (mapM_ok_iff.mp h).flip e he
  cases b with
  | constant channel v =>
      obtain ⟨c, -, rfl⟩ := map_ok_iff.mp hb
      cases hf
  | field b =>
      obtain ⟨f', hf', rfl⟩ := map_ok_iff.mp hb
      obtain rfl : f' = f := Option.some.inj hf
      exact ⟨b.field, column_of_resolveField hf'⟩

/-- In rows of rectangular data, encodings have values. -/
theorem exists_fieldValues {p : PreparedView R} (h : p.data.IsRectangular) {rows : List (Row R)}
    {size : Size R} {config : Config R} {encodings : Encodings R}
    (hencodings : p.resolve rows size config = .ok encodings) {drawn : List (Row R)}
    (hdrawn : ∀ row ∈ drawn, row ∈ p.data.rows) :
    ∃ values, fieldValues encodings drawn = .ok values := by
  refine exists_mapM_ok_iff.mpr fun row hrow ↦ exists_mapM_ok_iff.mpr fun f hf ↦ ?_
  obtain ⟨name, hcolumn⟩ := exists_column_of_resolve hencodings hf
  have hv := List.getElem?_eq_getElem (h.lt_length_values hcolumn (hdrawn row hrow))
  exact ⟨_, by rw [fieldValue, FieldEncoding.value?, hv]⟩

/-! ## Plots -/

/-- The marks of some rows and the guides that explain them. -/
def plot (p : PreparedView R) (encodings : Encodings R) (size : Size R) (config : Config R)
    (cell : FacetCell R) : Except (Fault R) (CellPlot R) := do
  let _ ← fieldValues encodings cell.rows
  let marks ← marks ⟨p.view.mark, encodings, size, config⟩ cell.rows
  let guides ← guides encodings config
  .ok ⟨cell, marks.map p.trace, some guides⟩

/-- A cell with scales of its own; there is nothing to make them of if it has no rows. -/
def plotAlone (p : PreparedView R) (size : Size R) (config : Config R) (cell : FacetCell R) :
    Except (Fault R) (CellPlot R) := do
  if cell.rows.isEmpty then .ok ⟨cell, [], none⟩
  else
    let encodings ← resolve p cell.rows size config
    plot p encodings size config cell

/-- All cells. -/
def plots (p : PreparedView R) (cells : List (FacetCell R)) (independent : Bool) (size : Size R)
    (config : Config R) : Except (Fault R) (List (CellPlot R)) := do
  if independent then cells.mapM (plotAlone p size config)
  else
    let encodings ← resolve p p.data.rows size config
    cells.mapM (plot p encodings size config)

theorem plot_eq {p : PreparedView R} {encodings : Encodings R} {size : Size R} {config : Config R}
    {cell : FacetCell R} (hvalues : ∃ values, fieldValues encodings cell.rows = .ok values) :
    plot p encodings size config cell = lift (p.plotTogether encodings size config cell) := by
  obtain ⟨values, hvalues⟩ := hvalues
  rw [plot, hvalues, PreparedView.plotTogether, PreparedView.marks, marks_eq, guides_eq_ok]
  cases Drawing.marks ⟨p.view.mark, encodings, size, config⟩ cell.rows <;> rfl

/-- Cells with rows of rectangular data are drawn the same without checks. -/
theorem plots_eq {p : PreparedView R} (h : p.data.IsRectangular) {cells : List (FacetCell R)}
    (hcells : ∀ cell ∈ cells, ∀ row ∈ cell.rows, row ∈ p.data.rows) (independent : Bool)
    (size : Size R) (config : Config R) :
    plots p cells independent size config = lift (p.plots cells independent size config) := by
  rw [plots, PreparedView.plots]
  split
  case isTrue =>
    refine mapM_eq_lift fun cell hcell ↦ ?_
    rw [plotAlone, PreparedView.plotAlone]
    split
    case isTrue => rfl
    case isFalse =>
      exact bind_lift (resolve_eq p h (hcells cell hcell) _ _) fun _ hencodings ↦
        plot_eq (exists_fieldValues h hencodings (hcells cell hcell))
  case isFalse =>
    refine bind_lift (resolve_eq p h (fun _ hrow ↦ hrow) _ _) fun _ hencodings ↦
      mapM_eq_lift fun cell hcell ↦ ?_
    exact plot_eq (exists_fieldValues h hencodings (hcells cell hcell))

end Charting.Indexed
