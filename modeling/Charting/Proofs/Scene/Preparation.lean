import Charting.Numeric.Exact
import Charting.Proofs.Data.Aggregation
import Charting.Scene.Aggregation

/-!
# What aggregated views show

A view that asks for summaries is drawn over aggregated data, in which every row stands for a group
of rows.  Bindings are rewritten to read the results by name.  No two summaries have the same name
(`FieldBinding.summary_output_injective`), but a summary and a field that rows are grouped by can,
and then the field is read in place of the summary (`FieldBinding.IsHidden`).
-/

namespace Charting

variable {R : Type}

namespace FieldBinding

/-- Two characters of the name of a result tell the operation. -/
theorem take_two_summary_output (op : AggregateOp) (field : String) :
    (summary op field).output.toList.take 2 = op.name.toList.take 2 := by
  cases op <;> simp [summary, AggregateField.of, AggregateField.rowCount, AggregateOp.name]

/-- The name of a result tells the summary. -/
theorem summary_output_injective {op op' : AggregateOp} {field field' : String}
    (h : (summary op field).output = (summary op' field').output) :
    summary op field = summary op' field' := by
  have hname : op.name.toList.take 2 = op'.name.toList.take 2 := by
    rw [← take_two_summary_output op field, ← take_two_summary_output op' field', h]
  obtain rfl : op = op' := by
    clear h
    cases op <;> cases op' <;> first | rfl | simp [AggregateOp.name] at hname
  by_cases hop : op = .count
  · rw [summary, summary, if_pos hop, if_pos hop]
  · rw [summary, summary, if_neg hop, if_neg hop] at h ⊢
    have hfield : field = field' := by simpa [AggregateField.of] using h
    rw [hfield]

end FieldBinding

namespace ViewSpec

/-! ## Names of results -/

/-- Every summary that a binding asks for is found by the name of its result. -/
theorem find?_summaries {view : ViewSpec R} {b : FieldBinding R} (hb : b ∈ view.fieldBindings)
    {op : AggregateOp} (hop : b.aggregate = some op) :
    view.summaries.find? (·.output == (FieldBinding.summary op b.field).output) =
      some (FieldBinding.summary op b.field) := by
  let asked : List AggregateField :=
    view.fieldBindings.filterMap fun b ↦ b.aggregate.map (FieldBinding.summary · b.field)
  have hasked : FieldBinding.summary op b.field ∈ asked :=
    List.mem_filterMap.mpr ⟨b, hb, by rw [hop]; rfl⟩
  have hkept : (FieldBinding.summary op b.field).output ∈
      view.summaries.map AggregateField.output :=
    mem_map_distinctBy.mpr (List.mem_map_of_mem hasked)
  obtain ⟨f, hf, hout⟩ := List.mem_map.mp hkept
  have hsome : (view.summaries.find?
      (·.output == (FieldBinding.summary op b.field).output)).isSome :=
    List.find?_isSome.mpr ⟨f, hf, by simpa using hout⟩
  obtain ⟨found, hfound⟩ := Option.isSome_iff_exists.mp hsome
  have hname : found.output = (FieldBinding.summary op b.field).output := by
    simpa using List.find?_some hfound
  -- Whatever is found is a summary as well, and so the one that its name tells.
  obtain ⟨b', -, hb'⟩ := List.mem_filterMap.mp
    ((distinctBy_sublist _ asked).subset (List.mem_of_find?_eq_some hfound))
  obtain ⟨op', -, rfl⟩ := Option.map_eq_some_iff.mp hb'
  rw [hfound, FieldBinding.summary_output_injective hname]

/-- Rows are grouped by the fields that are bound without a summary. -/
theorem mem_groupNames {view : ViewSpec R} {b : FieldBinding R} (hb : b ∈ view.fieldBindings)
    (hnone : b.aggregate = none) : b.field ∈ view.groupNames := by
  have hmem : b.field ∈ ((view.fieldBindings.filter (·.aggregate.isNone)).map (·.field)).map id := by
    rw [List.map_id]
    exact List.mem_map_of_mem (List.mem_filter.mpr ⟨hb, by rw [hnone]; rfl⟩)
  simpa [groupNames] using mem_map_distinctBy.mpr hmem

/-! ## Preparation -/

variable [Scalar R]

/-- A view without summaries is drawn over the data as it is, and any other view over aggregated
data, in which every row remembers the keys of its group. -/
theorem prepare_ok {view : ViewSpec R} {data : Dataset R} {p : PreparedView R}
    (h : view.prepare data = .ok p) :
    view.isAggregated = false ∧ p = ⟨view, data, none⟩ ∨
      view.isAggregated = true ∧ p.view = view.aggregated ∧
        p.data.IsAggregate data view.groupNames view.summaries ∧
        p.sources = some (p.data.keys.zip ((data.firstRows view.groupNames).map fun first ↦
          (data.group view.groupNames first).map (·.key))) := by
  rw [prepare] at h
  cases hview : view.isAggregated with
  | false =>
      rw [hview] at h
      exact .inl ⟨rfl, (Except.ok.inj h).symm⟩
  | true =>
      rw [hview] at h
      obtain ⟨-, -, h⟩ := bind_ok_iff.mp h
      obtain ⟨result, hresult, h⟩ := bind_ok_iff.mp h
      obtain ⟨members, hmembers, h⟩ := bind_ok_iff.mp h
      obtain ⟨columns, hcolumns, hmembers⟩ := bind_ok_iff.mp (mapError_ok_iff.mp hmembers)
      obtain ⟨groups, hgroups, hmembers⟩ := bind_ok_iff.mp hmembers
      rw [← Except.ok.inj h]
      refine .inr ⟨rfl, rfl, Dataset.aggregate_ok (mapError_ok_iff.mp hresult), ?_⟩
      rw [← Except.ok.inj hmembers, (Dataset.groupRows_ok hcolumns hgroups).2, List.map_map]
      rfl

end ViewSpec

namespace FieldBinding

/-! ## What bindings read -/

/-- The result of the summary that a binding asks for has the name of a field that rows are grouped
by. -/
def IsHidden (b : FieldBinding R) (view : ViewSpec R) : Prop :=
  ∃ op, b.aggregate = some op ∧ (summary op b.field).output ∈ view.groupNames

theorem field_aggregated {b : FieldBinding R} {op : AggregateOp} (hop : b.aggregate = some op) :
    b.aggregated.field = (summary op b.field).output := by
  rw [aggregated, hop]

theorem aggregated_eq_self {b : FieldBinding R} (hnone : b.aggregate = none) :
    b.aggregated = b := by
  rw [aggregated, hnone]

variable [Scalar R]

/-- What a binding is meant to show of a group, of which the first row is given: the value of its
field, or the summary over the values of its field in all rows of the group. -/
def meant? (b : FieldBinding R) (view : ViewSpec R) (data : Dataset R) (first : Row R) :
    Option (Value R) :=
  match b.aggregate with
  | none => data.valueIn? b.field first
  | some op => some <| op.apply <|
      (data.group view.groupNames first).map fun row ↦ (data.valueIn? b.field row).getD .null

/-- A summary over a group is the operation over the values of the field, if there is a field. -/
theorem value_summary (op : AggregateOp) (field : String) (data : Dataset R) (rows : List (Row R)) :
    (summary op field).value data rows =
      op.apply (rows.map fun row ↦ (data.valueIn? field row).getD .null) := by
  by_cases hop : op = .count
  · rw [summary, if_pos hop, AggregateField.value_of_count rfl, hop, AggregateOp.apply,
      List.length_map]
  · rw [summary, if_neg hop]
    rfl

section Reading

variable {view : ViewSpec R} {data result : Dataset R}
  (h : result.IsAggregate data view.groupNames view.summaries) {i : Nat} {first drawn : Row R}
  (hfirst : (data.firstRows view.groupNames)[i]? = some first)
  (hdrawn : result.rows[i]? = some drawn) {b : FieldBinding R}

include h hfirst hdrawn

/-- A binding whose summary is hidden reads the field that hides it. -/
theorem valueIn?_of_isHidden (hb : b.IsHidden view) :
    result.valueIn? b.aggregated.field drawn = data.valueIn? b.aggregated.field first := by
  obtain ⟨op, hop, hmem⟩ := hb
  rw [← field_aggregated hop] at hmem
  exact h.valueIn?_of_mem hfirst hdrawn hmem

/-- A binding whose summary is not hidden reads what it is meant to show. -/
theorem valueIn?_of_not_isHidden (hmem : b ∈ view.fieldBindings) (hb : ¬b.IsHidden view) :
    result.valueIn? b.aggregated.field drawn = b.meant? view data first := by
  cases hop : b.aggregate with
  | none =>
      rw [aggregated_eq_self hop, meant?, hop]
      exact h.valueIn?_of_mem hfirst hdrawn (ViewSpec.mem_groupNames hmem hop)
  | some op =>
      have hname : (summary op b.field).output ∉ view.groupNames := fun hname ↦
        hb ⟨op, hop, hname⟩
      rw [field_aggregated hop, h.valueIn?_output hfirst hdrawn
        (ViewSpec.find?_summaries hmem hop) hname, meant?, hop, value_summary]

/-- A binding reads something of every group. -/
theorem isSome_valueIn? (hmem : b ∈ view.fieldBindings) :
    (result.valueIn? b.aggregated.field drawn).isSome := by
  have hrow : first ∈ data.rows :=
    (data.firstRows_sublist view.groupNames).subset (List.mem_of_getElem? hfirst)
  by_cases hb : b.IsHidden view
  · rw [valueIn?_of_isHidden h hfirst hdrawn hb]
    obtain ⟨op, hop, hname⟩ := hb
    rw [field_aggregated hop]
    exact h.isSome first hrow _ hname
  · rw [valueIn?_of_not_isHidden h hfirst hdrawn hmem hb, meant?]
    cases hop : b.aggregate with
    | none => exact h.isSome first hrow _ (ViewSpec.mem_groupNames hmem hop)
    | some op => rfl

end Reading

end FieldBinding

/-- In a view that asks for summaries, a rewritten binding reads for each group what it is meant to
show, unless its summary is hidden; then it reads the field that hides the summary. -/
theorem ViewSpec.prepare_reads [Scalar R] {view : ViewSpec R} {data : Dataset R}
    {p : PreparedView R} (h : view.prepare data = .ok p) (haggregated : view.isAggregated = true) :
    p.data.rows.length = (data.firstRows view.groupNames).length ∧
      ∀ (i : Nat) (first drawn : Row R), (data.firstRows view.groupNames)[i]? = some first →
        p.data.rows[i]? = some drawn →
        ∀ (j : Nat) (b : FieldBinding R), view.encodings[j]? = some (.field b) →
          p.view.encodings[j]? = some (.field b.aggregated) ∧
          (p.data.valueIn? b.aggregated.field drawn).isSome ∧
          (b.IsHidden view →
            p.data.valueIn? b.aggregated.field drawn = data.valueIn? b.aggregated.field first) ∧
          (p.data.valueIn? b.aggregated.field drawn = b.meant? view data first ↔
            (b.IsHidden view →
              data.valueIn? b.aggregated.field first = b.meant? view data first)) := by
  rcases prepare_ok h with ⟨hview, -⟩ | ⟨-, hview, hdata, -⟩
  · rw [hview] at haggregated
    cases haggregated
  · refine ⟨hdata.length_eq, fun i first drawn hfirst hdrawn j b hj ↦ ?_⟩
    have hmem : b ∈ view.fieldBindings :=
      List.mem_filterMap.mpr ⟨.field b, List.mem_of_getElem? hj, rfl⟩
    have hhidden := FieldBinding.valueIn?_of_isHidden hdata hfirst hdrawn (b := b)
    have hshown := FieldBinding.valueIn?_of_not_isHidden hdata hfirst hdrawn hmem
    refine ⟨?_, FieldBinding.isSome_valueIn? hdata hfirst hdrawn hmem, hhidden, ?_, ?_⟩
    · rw [hview, ViewSpec.aggregated, List.getElem?_map, hj]
      rfl
    · intro heq hb
      rw [← hhidden hb, heq]
    · intro heq
      by_cases hb : b.IsHidden view
      · rw [hhidden hb, heq hb]
      · exact hshown hb

/-! ### A tally of tallies

A field that is called like a summary. -/

namespace ViewSpec

/-- Three rows with a field that is called like the number of rows. -/
def tallies : Dataset Rat :=
  .ofRows [.untyped "count", .untyped "pop"]
    [[.number 10, .number 1], [.number 10, .number 3], [.number 20, .number 5]]

/-- The number of rows. -/
def tally : FieldBinding Rat := { FieldBinding.plain .y "count" with aggregate := some .count }

/-- The mean of another field. -/
def meanPop : FieldBinding Rat := { FieldBinding.plain .size "pop" with aggregate := some .mean }

/-- The number of rows for each value of the field that is called like it. -/
def tallyView : ViewSpec Rat :=
  ⟨⟨.point, none⟩, [.field (.plain .x "count"), .field tally, .field meanPop], none, none⟩

theorem firstRows_tallies : (tallies.firstRows tallyView.groupNames)[0]? =
    some ⟨0, [.number 10, .number 1]⟩ := by
  decide +kernel

/-- The tallies can be aggregated. -/
theorem prepare_tallies : ∃ p drawn, tallyView.prepare tallies = .ok p ∧
    p.data.rows[0]? = some drawn := by
  have hsome : (tallyView.prepare tallies).toOption.map (·.data.rows[0]?.isSome) = some true := by
    decide +kernel
  obtain ⟨p, hp, hsome⟩ := exists_ok_of_map_eq_some hsome
  obtain ⟨drawn, hdrawn⟩ := Option.isSome_iff_exists.mp hsome
  exact ⟨p, drawn, hp, hdrawn⟩

/-- In the first group the mean is shown as it is meant, and the number of rows is hidden. -/
theorem prepare_reads_tallies : tallyView.isAggregated = true ∧
    ∃ p drawn, tallyView.prepare tallies = .ok p ∧ p.data.rows[0]? = some drawn ∧
      p.data.valueIn? "count" drawn = some (.number 10) ∧
      p.data.valueIn? "mean_pop" drawn = some (.number 2) := by
  have haggregated : tallyView.isAggregated = true := by decide
  obtain ⟨p, drawn, hp, hdrawn⟩ := prepare_tallies
  have hreads := (prepare_reads hp haggregated).2 0 _ drawn firstRows_tallies hdrawn
  have hhidden : tally.IsHidden tallyView := ⟨.count, rfl, by decide⟩
  have hshown : ¬meanPop.IsHidden tallyView := by
    rintro ⟨op, hop, hname⟩
    obtain rfl : AggregateOp.mean = op := Option.some.inj hop
    revert hname
    decide
  refine ⟨haggregated, p, drawn, hp, hdrawn, ?_, ?_⟩
  · refine ((hreads 1 tally rfl).2.2.1 hhidden).trans ?_
    decide +kernel
  · refine ((hreads 2 meanPop rfl).2.2.2.mpr fun hidden ↦ absurd hidden hshown).trans ?_
    decide +kernel

/-- Not every binding reads what it is meant to show: the number of rows in the first group of
tallies is two, and ten is read. -/
theorem not_forall_prepare_reads_meant :
    ¬∀ (view : ViewSpec Rat) (data : Dataset Rat) (p : PreparedView Rat),
      view.prepare data = .ok p → view.isAggregated = true →
      ∀ (i : Nat) (first drawn : Row Rat), (data.firstRows view.groupNames)[i]? = some first →
        p.data.rows[i]? = some drawn →
        ∀ (j : Nat) (b : FieldBinding Rat), view.encodings[j]? = some (.field b) →
          p.data.valueIn? b.aggregated.field drawn = b.meant? view data first := by
  intro hall
  obtain ⟨p, drawn, hp, hdrawn⟩ := prepare_tallies
  have hread : (tallyView.prepare tallies).toOption.bind (fun p ↦
      p.data.rows[0]?.bind (p.data.valueIn? tally.aggregated.field)) ≠
      tally.meant? tallyView tallies ⟨0, [.number 10, .number 1]⟩ := by
    decide +kernel
  refine hread ?_
  rw [hp, ← hall tallyView tallies p hp (by decide) 0 _ drawn firstRows_tallies hdrawn 1 tally rfl]
  change p.data.rows[0]?.bind _ = _
  rw [hdrawn]
  rfl

end ViewSpec

end Charting
