import Charting.Proofs.Encoding.Resolution
import Charting.Proofs.Mark.Congruence
import Charting.Proofs.Scene.Plots

/-!
# Charts without a grid

A view whose bindings of columns and rows are left out is drawn as a single cell.  The other bindings
are resolved as they are in the grid, and marks are drawn from nothing else: so the chart compiles
whenever these bindings can be resolved and drawn, and shows the marks that are drawn from them
(`ChartSpec.compile_unfaceted`).
-/

namespace Charting

variable {R : Type}

namespace ViewSpec

/-! ## Views -/

/-- The view without the bindings of the columns and the rows of a grid. -/
def unfaceted (view : ViewSpec R) : ViewSpec R :=
  { view with encodings := view.encodings.filter fun b ↦ b.channel.role != .partition }

/-- Nothing is bound to the columns or the rows of a grid. -/
theorem field?_unfaceted (view : ViewSpec R) {c : Channel} (hc : c.role = .partition) :
    view.unfaceted.field? c = none := by
  have hnone : view.unfaceted.binding? c = none := by
    rw [binding?, List.find?_eq_none]
    rintro b hb hbc
    obtain rfl : b.channel = c := by simpa using hbc
    have hrole := (List.mem_filter.mp hb).2
    rw [hc] at hrole
    exact absurd hrole (by decide)
  rw [field?, hnone]
  rfl

theorem checkChannels_unfaceted {view : ViewSpec R} (h : view.checkChannels = .ok ()) :
    view.unfaceted.checkChannels = .ok () :=
  checkChannels_ok_iff.mpr ((checkChannels_ok_iff.mp h).sublist
    ((List.filter_sublist.map Binding.channel).filter _))

theorem isAggregated_unfaceted {view : ViewSpec R} (h : view.isAggregated = false) :
    view.unfaceted.isAggregated = false := by
  rw [isAggregated, List.any_eq_false] at h ⊢
  exact fun b hb ↦ h b ((List.filter_sublist.filterMap Binding.field?).subset hb)

variable [Scalar R]

/-- A view without summaries is drawn over the data as it is. -/
theorem prepare_of_not_isAggregated {view : ViewSpec R} (h : view.isAggregated = false)
    (data : Dataset R) : view.prepare data = .ok ⟨view, data, none⟩ := by
  rw [prepare, h]
  rfl

end ViewSpec

variable [Scalar R]

/-- The bindings that are left are resolved as before. -/
theorem ViewSpec.resolve_unfaceted {view : ViewSpec R} {data : Dataset R} {rows : List (Row R)}
    {extent : Size R} {config : Config R} {encodings : Encodings R}
    (h : view.resolve data rows extent config = .ok encodings) :
    view.unfaceted.resolve data rows extent config = .ok encodings.unfaceted := by
  obtain ⟨⟨⟩, hchannels, h⟩ := bind_ok_iff.mp h
  refine bind_ok_iff.mpr ⟨(), checkChannels_unfaceted hchannels, mapM_ok_iff.mpr ?_⟩
  refine List.rel_filter (fun b e hbe ↦ ?_) (mapM_ok_iff.mp h)
  have hchannel : e.channel = b.channel := Binding.channel_of_resolve hbe
  change _ ↔ (e.channel.role != .partition) = true
  rw [hchannel]

/-- Without fields to split by, all rows are in a single cell. -/
theorem partition_none (data : Dataset R) (rows : List (Row R)) :
    partition data rows none none = .ok ⟨.single, .single, [⟨none, none, 0, 0, rows⟩]⟩ := by
  have hall : (rows.filter fun row ↦ FacetAxis.single.slot row == 0 &&
      FacetAxis.single.slot row == 0) = rows :=
    List.filter_eq_self.mpr fun row _ ↦ rfl
  conv => rhs; rw [← hall]
  rfl

namespace PreparedView

/-- Marks stand for the rows that they are drawn for if nothing is aggregated. -/
theorem marks_of_not_isAggregated (view : ViewSpec R) (data : Dataset R) (encodings : Encodings R)
    (rows : List (Row R)) (size : Size R) (config : Config R) :
    PreparedView.marks ⟨view, data, none⟩ encodings rows size config =
      Drawing.marks ⟨view.mark, encodings, size, config⟩ rows := by
  have htrace : (PreparedView.mk view data none).trace = id := by
    funext m
    have hrows : m.rows.flatMap (fun key ↦ [key]) = m.rows := by
      rw [← List.map_eq_flatMap, List.map_id']
    change { m with rows := m.rows.flatMap fun key ↦ [key] } = m
    rw [hrows]
  rw [PreparedView.marks, htrace]
  cases Drawing.marks ⟨view.mark, encodings, size, config⟩ rows with
  | error e => rfl
  | ok marks => exact congrArg Except.ok (List.map_id marks)

end PreparedView

/-! ## Charts -/

namespace ChartSpec

/-- The chart of a single cell of the given size. -/
def unfaceted (spec : ChartSpec R) (size : Size R) : ChartSpec R :=
  { spec with
    view := spec.view.unfaceted
    facet := { spec.facet with cellWidth := some size.width, cellHeight := some size.height } }

/-- A chart without a grid shows what is drawn from its bindings over all rows. -/
theorem compile_unfaceted {spec : ChartSpec R} {data : Dataset R} {size : Size R}
    {config : Config R} {encodings : Encodings R} {marks : List (Mark R)}
    (hview : spec.view.isAggregated = false)
    (hrows : spec.facet.independentScales = true → data.rows ≠ [])
    (hencodings : spec.view.resolve data data.rows size config = .ok encodings)
    (hmarks : Drawing.marks ⟨spec.view.mark, encodings, size, config⟩ data.rows = .ok marks)
    (measurer : TextMeasurer R) :
    ∃ scene cell, (spec.unfaceted size).compile data config measurer = .ok scene ∧
      scene.cells = [cell] ∧ cell.marks = marks := by
  obtain ⟨⟨⟩, hchannels, -⟩ := bind_ok_iff.mp hencodings
  let p : PreparedView R := ⟨spec.view.unfaceted, data, none⟩
  have hdrawn : p.marks encodings.unfaceted data.rows size config = .ok marks := by
    rw [PreparedView.marks_of_not_isAggregated, ← hmarks]
    exact (Drawing.marks_congr encodings.drawAlike_unfaceted data.rows).symm
  have hresolve : p.resolve p.data.rows size config = .ok encodings.unfaceted :=
    ViewSpec.resolve_unfaceted hencodings
  let plot : CellPlot R :=
    ⟨⟨none, none, 0, 0, data.rows⟩, marks, some (encodings.unfaceted.guides config)⟩
  have hplots : p.plots [plot.cell] spec.facet.independentScales size config = .ok [plot] :=
    PreparedView.plots_singleton rfl hrows hresolve hdrawn
  have hgrid : partition data data.rows (spec.view.unfaceted.field? .column)
      (spec.view.unfaceted.field? .row) =
      .ok ⟨.single, .single, [plot.cell]⟩ := by
    rw [ViewSpec.field?_unfaceted _ rfl, ViewSpec.field?_unfaceted _ rfl, partition_none]
  have hprepare : spec.view.unfaceted.prepare data = .ok p :=
    ViewSpec.prepare_of_not_isAggregated (ViewSpec.isAggregated_unfaceted hview) data
  obtain ⟨scene, hscene, hcells⟩ : ∃ scene,
      (spec.unfaceted size).compile data config measurer = .ok scene ∧
        List.Forall₂ CellPlot.IsShownAs [plot] scene.cells :=
    exists_compile_of_plots (ViewSpec.checkChannels_unfaceted hchannels) hprepare hgrid hplots
  obtain ⟨cell, rest, hcell, hrest, hcells⟩ := List.forall₂_cons_left_iff.mp hcells
  obtain rfl := List.forall₂_nil_left_iff.mp hrest
  exact ⟨scene, cell, hscene, hcells, hcell.marks_eq⟩

end ChartSpec

end Charting
