import Charting.Numeric.Exact
import Charting.Proofs.Data.Aggregation
import Charting.Proofs.Data.Order
import Charting.Proofs.Encoding.Inference
import Charting.Proofs.Scene.Facet
import Charting.Scene.Compile

/-!
# Levels of measurement in cells

If every cell of a grid has scales of its own, then the field that rows are split by is classified
twice: over all rows, where it has to be nominal or ordinal, and again over the rows of each cell.
A level that is declared is the same both times.  A level that is inferred need not be.  The rows of
a cell have one value in common, and if it is a number or a time, then the field that was nominal
among all rows is quantitative or temporal in the cell, which fails
(`ViewSpec.resolve_cell_error_iff`).
-/

namespace Charting

variable {R : Type}

/-! ## Levels of equal values -/

theorem Value.isTemporal_of_isNull {v : Value R} (h : v.isNull = true) : v.isTemporal = false := by
  cases v with
  | null => rfl
  | _ => cases h

/-- What a row shows in a column is its value there, unless it is missing. -/
theorem FacetAxis.filter_getElem? (column : Nat) (row : Row R) :
    row.values[column]?.filter (!·.isNull) =
      if (valueOf column row).isNull then none else some (valueOf column row) := by
  unfold valueOf
  cases row.values[column]? with
  | none => rfl
  | some v => cases hv : v.isNull <;> simp [hv]

variable [Scalar R]

theorem Value.isNumeric_of_isNull {v : Value R} (h : v.isNull = true) : v.isNumeric = false := by
  cases v with
  | null => rfl
  | _ => cases h

namespace FacetAxis

/-- Rows that have one value in common show the level of this value. -/
theorem infer_of_key_eq {column : Nat} {rows : List (Row R)} (hne : rows ≠ [])
    (heq : ∀ row ∈ rows, ∀ row' ∈ rows, (valueOf column row).key = (valueOf column row').key) :
    DataType.infer (rows.filterMap (·.values[column]?)) =
      if rows.all fun row ↦ (valueOf column row).isNumeric then .quantitative
      else if rows.all fun row ↦ (valueOf column row).isTemporal then .temporal
      else .nominal := by
  obtain ⟨first, rest, rfl⟩ := List.exists_cons_of_ne_nil hne
  have hnull : ∀ row ∈ first :: rest,
      (valueOf column row).isNull = (valueOf column first).isNull :=
    fun row hrow ↦ Value.isNull_eq_of_key_eq (heq row hrow first List.mem_cons_self)
  have hpresent : ((first :: rest).filterMap (·.values[column]?)).filter (!·.isNull) =
      (first :: rest).filterMap fun row ↦
        if (valueOf column first).isNull then none else some (valueOf column row) := by
    rw [List.filter_filterMap]
    refine List.filterMap_congr fun row hrow ↦ ?_
    rw [filter_getElem?, hnull row hrow]
  rw [DataType.infer_eq, hpresent]
  cases hfirst : (valueOf column first).isNull with
  | true => simp [Value.isNumeric_of_isNull hfirst, Value.isTemporal_of_isNull hfirst]
  | false => simp [Function.comp_def]

/-- Rows that have one value in common are continuous in it if it is a number or a time. -/
theorem isContinuous_infer_iff {column : Nat} {rows : List (Row R)} (hne : rows ≠ [])
    (heq : ∀ row ∈ rows, ∀ row' ∈ rows, (valueOf column row).key = (valueOf column row').key)
    {t : DataType} :
    (DataType.infer (rows.filterMap (·.values[column]?))).isContinuous = true ∧
        t = DataType.infer (rows.filterMap (·.values[column]?)) ↔
      t = .quantitative ∧ (∀ row ∈ rows, (valueOf column row).isNumeric) ∨
        t = .temporal ∧ (∃ row ∈ rows, !(valueOf column row).isNumeric) ∧
          ∀ row ∈ rows, (valueOf column row).isTemporal := by
  rw [infer_of_key_eq hne heq]
  by_cases hnumeric : ∀ row ∈ rows, (valueOf column row).isNumeric
  · rw [if_pos (List.all_eq_true.mpr hnumeric)]
    constructor
    · rintro ⟨-, rfl⟩
      exact .inl ⟨rfl, hnumeric⟩
    · rintro (⟨rfl, -⟩ | ⟨-, ⟨row, hrow, hnot⟩, -⟩)
      · exact ⟨rfl, rfl⟩
      · rw [hnumeric row hrow] at hnot
        cases hnot
  · have hother : ∃ row ∈ rows, !(valueOf column row).isNumeric := by
      simpa using hnumeric
    rw [if_neg (hnumeric ∘ List.all_eq_true.mp), or_iff_right fun h ↦ hnumeric h.2,
      and_iff_right hother]
    by_cases htemporal : ∀ row ∈ rows, (valueOf column row).isTemporal
    · rw [if_pos (List.all_eq_true.mpr htemporal)]
      constructor
      · rintro ⟨-, rfl⟩
        exact ⟨rfl, htemporal⟩
      · rintro ⟨rfl, -⟩
        exact ⟨rfl, rfl⟩
    · rw [if_neg (htemporal ∘ List.all_eq_true.mp)]
      constructor
      · rintro ⟨h, -⟩
        cases h
      · exact fun h ↦ absurd h.2 htemporal

end FacetAxis

/-! ## Two classifications -/

/-- Rows are split into columns, and into rows of a grid. -/
theorem Channel.eq_of_partition {c : Channel} (hc : c.role = .partition) :
    c = .column ∨ c = .row := by
  cases c <;> cases hc
  · exact .inl rfl
  · exact .inr rfl

theorem Channel.accepts_of_partition {c : Channel} (hc : c.role = .partition) (t : DataType) :
    c.accepts t = !t.isContinuous := by
  cases c <;> cases hc <;> cases t <;> rfl

namespace FieldBinding

/-- A level that is declared does not depend on the rows. -/
theorem typeOver_of_declared {b : FieldBinding R} {data : Dataset R}
    (h : ¬(b.type = none ∧ (b.fieldIn data).declared = none)) (rows others : List (Row R))
    (column : Nat) : b.typeOver data rows column = b.typeOver data others column := by
  unfold typeOver DataType.classify
  cases htype : b.type with
  | some t => rfl
  | none =>
      cases hdeclared : (b.fieldIn data).declared with
      | some t => rfl
      | none => exact absurd ⟨htype, hdeclared⟩ h

/-- The value that a binding shows of a row. -/
def valueIn (b : FieldBinding R) (data : Dataset R) (row : Row R) : Value R :=
  (data.valueIn? b.field row).getD .null

/-- The level of a field is not declared, and some rows all show a number in it, or else all show a
time. -/
def IsInferredIn (b : FieldBinding R) (data : Dataset R) (rows : List (Row R)) (t : DataType) :
    Prop :=
  b.type = none ∧ (b.fieldIn data).declared = none ∧
    (t = .quantitative ∧ (∀ row ∈ rows, (b.valueIn data row).isNumeric) ∨
      t = .temporal ∧ (∃ row ∈ rows, !(b.valueIn data row).isNumeric) ∧
        ∀ row ∈ rows, (b.valueIn data row).isTemporal)

/-- A field that all rows could be split by is not accepted for those with one value exactly if this
value is a number or a time and the level is not declared. -/
theorem isInferredIn_iff {b : FieldBinding R} (hrole : b.channel.role = .partition)
    {data : Dataset R} {rows part : List (Row R)} {column : Nat}
    (hcolumn : data.columnIndex? b.field = some column)
    (haccepts : b.channel.accepts (b.typeOver data rows column) = true) (hne : part ≠ [])
    (heq : ∀ row ∈ part, ∀ row' ∈ part,
      (FacetAxis.valueOf column row).key = (FacetAxis.valueOf column row').key) {t : DataType} :
    b.IsInferredIn data part t ↔
      b.channel.accepts (b.typeOver data part column) = false ∧
        t = b.typeOver data part column := by
  have hvalue : b.valueIn data = FacetAxis.valueOf column := by
    funext row
    rw [valueIn, Dataset.valueIn?, hcolumn]
    rfl
  rw [IsInferredIn, hvalue]
  by_cases hinferred : b.type = none ∧ (b.fieldIn data).declared = none
  · obtain ⟨htype, hdeclared⟩ := hinferred
    rw [typeOver_of_not_declared htype hdeclared, Channel.accepts_of_partition hrole,
      and_iff_right htype, and_iff_right hdeclared, Bool.not_eq_eq_eq_not, Bool.not_false,
      FacetAxis.isContinuous_infer_iff hne heq]
  · rw [typeOver_of_declared hinferred part rows, haccepts]
    constructor
    · rintro ⟨htype, hdeclared, -⟩
      exact absurd ⟨htype, hdeclared⟩ hinferred
    · rintro ⟨h, -⟩
      cases h

end FieldBinding

namespace ViewSpec

/-- What rows are split by is resolved in a cell unless its level is inferred there as that of
numbers or times. -/
theorem resolve_binding_error_iff {view : ViewSpec R} (hchannels : view.checkChannels = .ok ())
    {data : Dataset R} {grid : FacetGrid R}
    (hgrid : partition data data.rows (view.field? .column) (view.field? .row) = .ok grid)
    {cell : FacetCell R} (hcell : cell ∈ grid.cells) (hne : cell.rows ≠ []) {b : FieldBinding R}
    (hb : .field b ∈ view.encodings) (hrole : b.channel.role = .partition) {mark : MarkKind}
    {extent : Size R} {config : Config R} {t : DataType} :
    b.resolve mark data cell.rows extent config = .error (.incompatibleType b.channel t) ↔
      b.IsInferredIn data cell.rows t := by
  have hbound : view.field? .column = some b ∨ view.field? .row = some b := by
    have hfield := field?_of_mem hchannels hb fun h ↦ by rw [h] at hrole; cases hrole
    rcases Channel.eq_of_partition hrole with h | h
    · exact .inl (h ▸ hfield)
    · exact .inr (h ▸ hfield)
  have hscale : b.channel.hasScale = false := by
    rw [Channel.hasScale, hrole]
  obtain ⟨column, hcolumn, haccepts, heq⟩ := key_eq_of_partition hgrid hcell hbound
  rw [FieldBinding.isInferredIn_iff hrole hcolumn haccepts hne heq,
    FieldBinding.resolve_error_iff hscale, hcolumn]
  constructor
  · rintro (⟨h, -⟩ | ⟨column', h, hfails, herror⟩)
    · cases h
    · obtain rfl := Option.some.inj h
      exact ⟨hfails, (CompileError.incompatibleType.inj herror).2⟩
  · rintro ⟨hfails, rfl⟩
    exact .inr ⟨column, rfl, hfails, rfl⟩

/-- Although rows could be split by a field, a view cannot be resolved in a cell because of its
level if this is inferred there as that of numbers or times, and all bindings before can be
resolved. -/
theorem resolve_cell_error_iff {view : ViewSpec R} {data : Dataset R} {grid : FacetGrid R}
    (hgrid : partition data data.rows (view.field? .column) (view.field? .row) = .ok grid)
    {cell : FacetCell R} (hcell : cell ∈ grid.cells) (hne : cell.rows ≠ []) {c : Channel}
    (hc : c.role = .partition) {t : DataType} {extent : Size R} {config : Config R} :
    view.resolve data cell.rows extent config = .error (.incompatibleType c t) ↔
      view.checkChannels = .ok () ∧ ∃ before b after,
        view.encodings = before ++ .field b :: after ∧ b.channel = c ∧
        (∀ b' ∈ before, ∃ e, b'.resolve view.mark.kind data cell.rows extent config = .ok e) ∧
        b.IsInferredIn data cell.rows t := by
  constructor
  · intro h
    rcases resolve_error_iff.mp h with h | ⟨hchannels, before, b, after, hsplit, hbefore, hb⟩
    · obtain ⟨_, h⟩ := checkChannels_error h
      cases h
    · obtain rfl : b.channel = c := (Option.some.inj (Binding.failsOn_resolve _ hb)).symm
      cases b with
      | constant channel v => cases Constant.parse_error (map_error_iff.mp hb)
      | field b =>
          exact ⟨hchannels, before, b, after, hsplit, rfl, hbefore,
            (resolve_binding_error_iff hchannels hgrid hcell hne (by simp [hsplit]) hc).mp
              (map_error_iff.mp hb)⟩
  · rintro ⟨hchannels, before, b, after, hsplit, rfl, hbefore, hb⟩
    refine resolve_error_iff.mpr (.inr ⟨hchannels, before, .field b, after, hsplit, hbefore,
      map_error_iff.mpr ?_⟩)
    exact (resolve_binding_error_iff hchannels hgrid hcell hne (by simp [hsplit]) hc).mpr hb

/-! ### A chart of lots

One lot has a name and the other has a number only.  All lots together have names, but the lot with
the number has a chart of its own, in which its number is a quantity. -/

/-- The weights of two lots. -/
def lots : Dataset Rat :=
  .ofRows [.untyped "lot", .untyped "weight"]
    [[.string "a", .number 1], [.number 7, .number 2]]

/-- The weight of each lot in a cell of its own. -/
def lotView : ViewSpec Rat :=
  ⟨⟨.point, none⟩, [.field (.plain .x "weight"), .field (.plain .column "lot")], none, none⟩

/-- The cell of the lot with a number. -/
def lotCell : FacetCell Rat := ⟨some (.number 7), none, 1, 0, [⟨1, [.number 7, .number 2]⟩]⟩

/-- The cells of both lots. -/
def lotGrid : FacetGrid Rat :=
  ⟨⟨some 0, [.string "a", .number 7]⟩, .single,
    [⟨some (.string "a"), none, 0, 0, [⟨0, [.string "a", .number 1]⟩]⟩, lotCell]⟩

theorem partition_lots :
    partition lots lots.rows (lotView.field? .column) (lotView.field? .row) = .ok lotGrid := rfl

theorem lotCell_mem : lotCell ∈ lotGrid.cells := List.mem_cons_of_mem _ List.mem_cons_self

/-- The weight of the lot with the number can be shown. -/
theorem resolve_weight : ∀ b ∈ [Binding.field (.plain .x "weight")],
    ∃ e, b.resolve lotView.mark.kind lots lotCell.rows ⟨200, 100⟩ .standard = .ok e := by
  intro b hb
  obtain rfl := List.mem_singleton.mp hb
  exact exists_ok_of_isOk (by decide +kernel)

/-- The lot with the number is not accepted. -/
theorem resolve_cell_error_iff_lots :
    partition lots lots.rows (lotView.field? .column) (lotView.field? .row) = .ok lotGrid ∧
      lotCell ∈ lotGrid.cells ∧ lotCell.rows ≠ [] ∧ Channel.column.role = .partition ∧
      lotView.resolve lots lotCell.rows ⟨200, 100⟩ .standard =
        .error (.incompatibleType .column .quantitative) := by
  have hne : lotCell.rows ≠ [] := List.cons_ne_nil _ _
  refine ⟨partition_lots, lotCell_mem, hne, rfl, ?_⟩
  exact (resolve_cell_error_iff partition_lots lotCell_mem hne rfl).mpr
    ⟨rfl, _, .plain .column "lot", [], rfl, rfl, resolve_weight, rfl, rfl, .inl ⟨rfl, by decide⟩⟩

/-- That rows can be split by a field does not mean that it is accepted in every cell. -/
theorem not_forall_cells_accepted :
    ¬∀ (spec : ChartSpec Rat) (data : Dataset Rat) (p : PreparedView Rat) (grid : FacetGrid Rat)
      (size : Size Rat) (config : Config Rat), spec.facet.independentScales = true →
      spec.view.prepare data = .ok p →
      partition p.data p.data.rows (p.view.field? .column) (p.view.field? .row) = .ok grid →
      ∀ cell ∈ grid.cells, cell.rows ≠ [] → ∀ c : Channel, c.role = .partition →
        ∀ t, p.resolve cell.rows size config ≠ .error (.incompatibleType c t) := by
  intro h
  refine h ⟨lotView, ⟨true, none, none⟩, [], []⟩ lots ⟨lotView, lots, none⟩ lotGrid ⟨200, 100⟩
    .standard rfl rfl partition_lots lotCell lotCell_mem (List.cons_ne_nil _ _) .column rfl
    .quantitative ?_
  have hlot : (Binding.field (.plain .column "lot")).resolve .point lots lotCell.rows ⟨200, 100⟩
      .standard = .error (.incompatibleType .column .quantitative) := rfl
  exact resolve_error_iff.mpr (.inr ⟨rfl, _, _, [], rfl, resolve_weight, hlot⟩)

end ViewSpec

end Charting
