import Charting.Numeric.Exact
import Charting.Proofs.Scene.Sources

/-!
# Groups and their sources

Aggregated data is made of groups of rows, and the keys behind each aggregated row are found by
grouping the rows once more.  Both groupings come to the same: a row of aggregated data is the
summary of exactly the rows that it stands for (`ViewSpec.prepare_sources`), so that whoever follows
a mark back to its sources finds the rows that its numbers are made of.
-/

namespace Charting

variable {R : Type} [Scalar R]

/-! ## Summaries by rules -/

/-- What a summary comes to over some number of rows with the given finite readings. -/
inductive AggregateOp.IsSummary (rows : Nat) : AggregateOp → List R → Value R → Prop
  /-- Counting counts all rows, with or without a reading. -/
  | count (readings : List R) : IsSummary rows count readings (.number (Scalar.ofNat rows))
  /-- Without a reading there is nothing to summarise. -/
  | empty {op : AggregateOp} (h : op ≠ count) : IsSummary rows op [] .null
  /-- The readings are added. -/
  | sum (x : R) (rest : List R) : IsSummary rows sum (x :: rest) (.number (total (x :: rest)))
  /-- The sum is shared among the readings. -/
  | mean (x : R) (rest : List R) : IsSummary rows mean (x :: rest)
      (.number (total (x :: rest) / Scalar.ofNat (x :: rest).length))
  /-- The least reading. -/
  | min (x : R) (rest : List R) : IsSummary rows min (x :: rest) (.number (rest.foldl Scalar.min x))
  /-- The greatest reading. -/
  | max (x : R) (rest : List R) : IsSummary rows max (x :: rest) (.number (rest.foldl Scalar.max x))

/-- An operation follows the rules of summaries. -/
theorem AggregateOp.isSummary_apply (op : AggregateOp) (values : List (Value R)) :
    op.IsSummary values.length (values.filterMap Value.toFinite?) (op.apply values) := by
  unfold apply
  generalize values.filterMap Value.toFinite? = readings
  cases readings with
  | nil =>
      cases op with
      | count => exact .count []
      | _ => exact .empty (by decide)
  | cons x rest =>
      cases op with
      | count => exact .count (x :: rest)
      | sum => exact .sum x rest
      | mean => exact .mean x rest
      | min => exact .min x rest
      | max => exact .max x rest

namespace AggregateField

/-- The finite readings of the column of a summary in some rows. -/
def readings (f : AggregateField) (data : Dataset R) (rows : List (Row R)) : List R :=
  rows.filterMap fun row ↦ (f.input.bind (data.valueIn? · row)).bind Value.toFinite?

/-- The summary of a group follows the rules of summaries. -/
theorem isSummary_value (f : AggregateField) (data : Dataset R) (rows : List (Row R)) :
    f.op.IsSummary rows.length (f.readings data rows) (f.value data rows) := by
  have hsummary := f.op.isSummary_apply
    (rows.map fun row ↦ (f.input.bind fun name ↦ data.valueIn? name row).getD .null)
  rw [List.length_map, List.filterMap_map] at hsummary
  have hreadings : f.readings data rows = rows.filterMap (Value.toFinite? ∘
      fun row ↦ (f.input.bind fun name ↦ data.valueIn? name row).getD .null) := by
    refine List.filterMap_congr fun row _ ↦ ?_
    rw [Function.comp_apply]
    cases f.input.bind fun name ↦ data.valueIn? name row <;> rfl
  rw [hreadings]
  exact hsummary

end AggregateField

/-! ## The rows behind a row of aggregated data -/

/-- The rows that a drawn row stands for, in their order. -/
def PreparedView.rowsBehind (p : PreparedView R) (data : Dataset R) (drawn : Row R) :
    List (Row R) :=
  data.rows.filter fun row ↦ row.key ∈ p.sourceKeys drawn.key

namespace Dataset

/-- Where keys tell rows apart, a group is found by its keys. -/
theorem filter_mem_keys_group {data : Dataset R} (distinct : data.keys.Nodup) (names : List String)
    (first : Row R) :
    (data.rows.filter fun row ↦ row.key ∈ (data.group names first).map (·.key)) =
      data.group names first := by
  refine List.filter_congr fun row hrow ↦ ?_
  rw [decide_eq_decide, List.mem_map]
  constructor
  · rintro ⟨row', hrow', hkey⟩
    obtain ⟨hmem, hsame⟩ := List.mem_filter.mp hrow'
    obtain rfl : row' = row := List.inj_on_of_nodup_map distinct hmem hrow hkey
    exact of_decide_eq_true hsame
  · intro hsame
    exact ⟨row, List.mem_filter.mpr ⟨hrow, decide_eq_true hsame⟩, rfl⟩

/-- The cells of a group in the grouping fields are the values of its first row. -/
theorem getElem?_summaryCells_name {data : Dataset R} {names : List String}
    {summaries : List AggregateField} {first : Row R} {j : Nat} {name : String}
    (hname : names[j]? = some name) :
    ((data.summaryCells names summaries first).map (·.2))[j]? =
      some ((data.valueIn? name first).getD .null) := by
  obtain ⟨hlt, -⟩ := List.getElem?_eq_some_iff.mp hname
  rw [summaryCells, List.map_append, List.map_map, List.getElem?_append_left (by simpa using hlt),
    List.getElem?_map, hname]
  rfl

/-- The cells after those are the summaries over the group. -/
theorem getElem?_summaryCells_summary {data : Dataset R} {names : List String}
    {summaries : List AggregateField} {first : Row R} {j : Nat} {f : AggregateField}
    (hf : summaries[j]? = some f) :
    ((data.summaryCells names summaries first).map (·.2))[names.length + j]? =
      some (f.value data (data.group names first)) := by
  rw [summaryCells, List.map_append, List.map_map, List.map_map,
    List.getElem?_append_right (by simp), List.length_map, Nat.add_sub_cancel_left,
    List.getElem?_map, hf]
  rfl

end Dataset

/-- In a view that asks for summaries, the keys behind the drawn rows are the keys of the data, each
of them once.  Behind every drawn row there is a group of rows, in their order: those that agree with
the first of them in the grouping fields.  The drawn row has the values of the first of them in the
grouping fields, and then the summaries over all of them. -/
theorem ViewSpec.prepare_sources {view : ViewSpec R} {data : Dataset R} {p : PreparedView R}
    (distinct : data.keys.Nodup) (h : view.prepare data = .ok p)
    (haggregated : view.isAggregated = true) :
    p.data.fields.map (·.name) = view.groupNames ++ view.summaries.map (·.output) ∧
      (p.data.rows.flatMap fun drawn ↦ p.sourceKeys drawn.key).Perm data.keys ∧
      ∀ drawn ∈ p.data.rows, ∃ (first : Row R) (rest : List (Row R)),
        p.rowsBehind data drawn = first :: rest ∧
        p.sourceKeys drawn.key = (first :: rest).map (·.key) ∧
        (∀ row ∈ data.rows, row ∈ first :: rest ↔
          data.groupKey view.groupNames row = data.groupKey view.groupNames first) ∧
        (∀ (j : Nat) (name : String), view.groupNames[j]? = some name →
          ∃ v, drawn.values[j]? = some v ∧ data.valueIn? name first = some v) ∧
        ∀ (j : Nat) (f : AggregateField), view.summaries[j]? = some f →
          ∃ v, drawn.values[view.groupNames.length + j]? = some v ∧
            f.op.IsSummary (first :: rest).length (f.readings data (first :: rest)) v := by
  rcases prepare_ok h with ⟨hview, -⟩ | ⟨-, -, hdata, -⟩
  · rw [haggregated] at hview
    cases hview
  refine ⟨hdata.names_eq, keysBehind_perm h, fun drawn hdrawn ↦ ?_⟩
  obtain ⟨i, hi⟩ := List.mem_iff_getElem?.mp hdrawn
  obtain ⟨hkey, first, hfirst⟩ := hdata.key_eq_of_getElem? hi
  have hkeys : p.sourceKeys drawn.key = (data.group view.groupNames first).map (·.key) := by
    rw [hkey, sourceKeys_of_isAggregated h haggregated hfirst]
  have hmem : first ∈ data.firstRows view.groupNames := List.mem_of_getElem? hfirst
  obtain ⟨rest, hgroup⟩ := peers_of_mem_distinctBy hmem
  have hgroup : data.group view.groupNames first = first :: rest := hgroup
  have hvalues : drawn.values =
      (data.summaryCells view.groupNames view.summaries first).map (·.2) := by
    have hrow := hdata.getElem?_rows i
    rw [hi, hfirst] at hrow
    rw [Option.some.inj hrow]
  refine ⟨first, rest, ?_, hgroup ▸ hkeys, fun row hrow ↦ ?_, fun j name hname ↦ ?_, fun j f hf ↦ ?_⟩
  · rw [PreparedView.rowsBehind, hkeys, Dataset.filter_mem_keys_group distinct, hgroup]
  · rw [← hgroup, Dataset.group, peers, List.mem_filter, and_iff_right hrow, decide_eq_true_iff]
  · obtain ⟨v, hv⟩ := Option.isSome_iff_exists.mp (hdata.isSome first
      ((data.firstRows_sublist view.groupNames).subset hmem) name (List.mem_of_getElem? hname))
    refine ⟨v, ?_, hv⟩
    rw [hvalues, Dataset.getElem?_summaryCells_name hname, hv]
    rfl
  · refine ⟨_, by rw [hvalues, Dataset.getElem?_summaryCells_summary hf], ?_⟩
    rw [hgroup]
    exact f.isSummary_value data (first :: rest)

/-! ### Deliveries

Means over regions.  Nothing is known about the weight of any delivery to one of them. -/

namespace ViewSpec

/-- Weights of deliveries, some of them as texts. -/
def deliveries : Dataset Rat :=
  .ofRows [.untyped "region", .untyped "weight"]
    [[.string "north", .number 3], [.string "south", .string "unknown"],
      [.string "north", .string "5"], [.string "south", .null], [.string "north", .null]]

/-- The mean weight and the number of deliveries in each region. -/
def deliveryView : ViewSpec Rat :=
  ⟨⟨.bar, none⟩,
    [.field (.plain .x "region"),
      .field { FieldBinding.plain .y "weight" with aggregate := some .mean },
      .field { FieldBinding.plain .size "weight" with aggregate := some .count }], none, none⟩

/-- Three deliveries are behind the mean of the north, two of which have a weight, and two are behind
the missing mean of the south. -/
theorem prepare_sources_deliveries : deliveries.keys.Nodup ∧ deliveryView.isAggregated = true ∧
    ∃ p, deliveryView.prepare deliveries = .ok p ∧
      p.data.rows = [⟨0, [.string "north", .number 4, .number 3]⟩,
        ⟨1, [.string "south", .null, .number 2]⟩] ∧
      p.data.rows.map (fun drawn ↦ p.sourceKeys drawn.key) = [[0, 2, 4], [1, 3]] ∧
      (p.data.rows.flatMap fun drawn ↦ p.sourceKeys drawn.key).Perm deliveries.keys ∧
      ∀ drawn ∈ p.data.rows, ∃ v, drawn.values[1]? = some v ∧
        AggregateOp.IsSummary (p.rowsBehind deliveries drawn).length .mean
          ((AggregateField.of .mean "weight").readings deliveries (p.rowsBehind deliveries drawn))
          v := by
  have distinct : deliveries.keys.Nodup := by decide
  have haggregated : deliveryView.isAggregated = true := by decide
  have hsome : (deliveryView.prepare deliveries).toOption.map (fun p ↦
      (p.data.rows, p.data.rows.map fun drawn ↦ p.sourceKeys drawn.key)) =
      some ([⟨0, [.string "north", .number 4, .number 3]⟩,
        ⟨1, [.string "south", .null, .number 2]⟩], [[0, 2, 4], [1, 3]]) := by
    decide +kernel
  obtain ⟨p, h, hrows⟩ := exists_ok_of_map_eq_some hsome
  obtain ⟨hrows, hkeys⟩ := Prod.mk.inj hrows
  obtain ⟨-, hperm, hgroups⟩ := prepare_sources distinct h haggregated
  refine ⟨distinct, haggregated, p, h, hrows, hkeys, hperm, fun drawn hdrawn ↦ ?_⟩
  obtain ⟨first, rest, hbehind, -, -, -, hsummaries⟩ := hgroups drawn hdrawn
  have hmean : deliveryView.summaries[0]? = some (.of .mean "weight") := by decide +kernel
  have hlength : deliveryView.groupNames.length = 1 := by decide +kernel
  obtain ⟨v, hv, hrule⟩ := hsummaries 0 _ hmean
  rw [hlength] at hv
  exact ⟨v, hv, hbehind ▸ hrule⟩

end ViewSpec

end Charting
