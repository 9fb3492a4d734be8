import Charting.Numeric.Exact
import Charting.Proofs.Scene.Placement

/-!
# Ticks stand at marks

A tick is where its scale puts its value, and so are the rows with this value.  An axis that all
cells share has ticks that look like those of the scale of each cell.  Since it is placed along the
edge of the cells (`Scene.IsPlaced`), its ticks line up with the marks in every cell of the column
or row (`ChartSpec.compile_placement`).
-/

namespace Charting

variable {R : Type} [Scalar R]

/-- The ticks of an axis look like ticks that are where rows with their values are drawn. -/
def Axis.LinesUp (a : Axis R) (encodings : Encodings R) : Prop :=
  ∀ t ∈ a.ticks, ∃ t', (t' = t ∨ (t' == t) = true) ∧ ∀ (row : Row R) (place : Place R),
    encodings.value? a.channel row = some t'.value →
      encodings.place? a.channel row = some place → ∀ extent, place.center extent = t'.position

/-- Lists that look the same have elements that do. -/
theorem exists_beq_of_mem {α : Type} [BEq α] {xs ys : List α} (h : (xs == ys) = true) {y : α}
    (hy : y ∈ ys) : ∃ x ∈ xs, (x == y) = true := by
  induction xs generalizing ys with
  | nil =>
      cases ys with
      | nil => cases hy
      | cons _ _ => cases h
  | cons x xs ih =>
      cases ys with
      | nil => cases hy
      | cons z ys =>
          obtain ⟨hxz, hxs⟩ := Bool.and_eq_true_iff.mp h
          rcases List.mem_cons.mp hy with rfl | hy
          · exact ⟨x, List.mem_cons_self, hxz⟩
          · obtain ⟨w, hw, hwy⟩ := ih hxs hy
            exact ⟨w, List.mem_cons_of_mem x hw, hwy⟩

namespace Encodings

variable {encodings : Encodings R} {config : Config R}

/-- An axis lines up with marks if an axis that looks the same was generated with them. -/
theorem linesUp_of_same (h : encodings.ScalesFit) {a b : Axis R}
    (hb : b ∈ encodings.axes config) (hab : a.bare = b.bare ∨ b.same a = true) :
    a.LinesUp encodings := by
  intro t ht
  rcases hab with hbare | hsame
  · have hchannel : a.channel = b.channel := by
      rw [← a.channel_bare, hbare, b.channel_bare]
    have hticks : a.bare.ticks = b.bare.ticks := congrArg Axis.ticks hbare
    refine ⟨t, .inl rfl, fun row place hv hplace ↦ ?_⟩
    rw [hchannel] at hv hplace
    exact center_of_mem_axes h hb (hticks ▸ ht) hv hplace
  · have hchannel : b.channel = a.channel := Guides.channel_eq_of_same hsame
    have hticks : (b.ticks == a.ticks) = true := by
      simp only [Axis.same, Bool.and_eq_true] at hsame
      exact hsame.1.2
    obtain ⟨t', ht', htt'⟩ := exists_beq_of_mem hticks ht
    refine ⟨t', .inr htt', fun row place hv hplace ↦ ?_⟩
    rw [← hchannel] at hv hplace
    exact center_of_mem_axes h hb ht' hv hplace

end Encodings

/-- How a cell of a scene shows a cell of a grid: with marks that line up with all axes, or not at
all if it has no rows to make scales of. -/
def PreparedView.Shows (p : PreparedView R) (independent : Bool) (size : Size R)
    (config : Config R) (axes : List (Axis R)) (facet : FacetCell R) (cell : SceneCell R) : Prop :=
  (independent = true ∧ facet.rows = [] ∧ cell.marks = []) ∨
    ∃ encodings,
      p.resolve (if independent then facet.rows else p.data.rows) size config = .ok encodings ∧
      p.marks encodings facet.rows size config = .ok cell.marks ∧
      ∀ a ∈ axes ++ cell.axes, a.LinesUp encodings

/-- A plotted cell is shown with marks that line up with the axes of the scene. -/
theorem PreparedView.IsPlot.shows {p : PreparedView R} {independent : Bool} {size : Size R}
    {config : Config R} {facet : FacetCell R} {q : CellPlot R}
    (h : p.IsPlot independent size config facet q) {plots : List (CellPlot R)} (hq : q ∈ plots)
    {shared : List (Axis R)} {own : List (List (Axis R))}
    (hshared : IsHoisted Axis.same Axis.bare (plots.map fun q ↦ q.guides.map (·.axes)) shared own)
    {cell : SceneCell R} (hshown : q.IsShownAs cell)
    (hkeeps : Keeps Axis.same Axis.bare shared (q.guides.map (·.axes)) cell.axes) :
    p.Shows independent size config shared facet cell := by
  cases h with
  | empty hscales hrows => exact .inl ⟨hscales, hrows, hshown.marks_eq⟩
  | @drawn encodings marks hrows hencodings hmarks =>
      have hfit := ViewSpec.scalesFit_of_resolve hencodings
      refine .inr ⟨encodings, hencodings, hmarks.trans (congrArg _ hshown.marks_eq.symm), ?_⟩
      intro a ha
      rcases List.mem_append.mp ha with ha | ha
      · have hgenerated : some (encodings.axes config) ∈
            plots.map fun q ↦ q.guides.map (·.axes) := List.mem_map_of_mem hq
        obtain ⟨b, hb, hab⟩ := hshared.exists_of_shared ha hgenerated
        exact Encodings.linesUp_of_same hfit hb hab
      · obtain ⟨_, ⟨⟩, b, hb, hab⟩ := hkeeps.own_generated a ha
        exact Encodings.linesUp_of_same hfit hb (.inl hab)

/-- All cells are shown with marks that line up with the axes of the scene. -/
theorem SharedPlots.forall₂_shows [LawfulScalar R] {p : PreparedView R} {independent : Bool}
    {size : Size R} {config : Config R} (grid : FacetGrid R) {cells : List (FacetCell R)}
    {plots : List (CellPlot R)}
    (hplots : List.Forall₂ (p.IsPlot independent size config) cells plots)
    (hdistinct : ∀ q ∈ plots, ∀ g ∈ q.guides, g.Distinct) (layout : Layout R) :
    let scene := (ofPlots grid plots).place layout
    List.Forall₂ (p.Shows independent size config scene.axes) cells scene.cells := by
  intro scene
  have hown : (ofPlots grid plots).own.length = plots.length := List.length_map _
  have hshown : List.Forall₂ CellPlot.IsShownAs plots scene.cells := forall₂_place hown layout
  have hkept : List.Forall₂ (fun q cell ↦ q ∈ plots ∧ q.IsShownAs cell ∧
      Keeps Axis.same Axis.bare scene.axes (q.guides.map (·.axes)) cell.axes) plots scene.cells :=
    (List.forall₂_and_left _ _).mpr ⟨fun q hq ↦ hq, List.Forall₂.mp
      (fun _ _ hcell hkeeps ↦ ⟨hcell, hkeeps.1⟩) hshown (forall₂_keeps grid hdistinct layout)⟩
  refine (forall₂_comp hplots hkept).imp ?_
  rintro facet cell ⟨q, hplot, hq, hcell, haxes⟩
  exact hplot.shows hq (isHoisted_axes grid hdistinct layout) hcell haxes

namespace ChartSpec

variable {spec : ChartSpec R} {data : Dataset R} {config : Config R} {measurer : TextMeasurer R}
  {scene : Scene R}

/-- Cells are in rows and columns, axes and headers stand where the cells are, and the ticks of the
axes line up with the marks. -/
theorem compile_placement [LawfulScalar R] (h : spec.compile data config measurer = .ok scene) :
    ∃ p grid, spec.view.prepare data = .ok p ∧
      partition p.data p.data.rows (p.view.field? .column) (p.view.field? .row) = .ok grid ∧
      scene.IsPlaced config measurer grid ∧
      List.Forall₂ (p.Shows spec.facet.independentScales
        (spec.cellSize grid.columns.size grid.rows.size config) config scene.axes) grid.cells
        scene.cells := by
  obtain ⟨-, p, grid, plots, hp, hgrid, hplots, rfl⟩ := compile_ok_iff.mp h
  have hplots := PreparedView.isPlot_of_plots hplots
  have hdistinct : ∀ q ∈ plots, ∀ g ∈ q.guides, g.Distinct := by
    intro q hq
    obtain ⟨cell, hcell⟩ := exists_of_forall₂ hplots.flip q hq
    exact hcell.distinct
  have hcells : plots.map (·.cell) = grid.cells :=
    (eq_map_of_forall₂ hplots.flip fun q _ facet hq ↦ hq.cell_eq.symm).symm
  exact ⟨p, grid, hp, hgrid,
    SharedPlots.isPlaced_ofPlots (hcells.trans (cells_eq_of_partition hgrid)) hcells hdistinct,
    SharedPlots.forall₂_shows grid hplots hdistinct _⟩

/-- The apples of two farms in two years. -/
def apples : Dataset Rat :=
  .ofRows [.untyped "farm", .untyped "year", .untyped "fruit", .untyped "tons"]
    [[.string "east", .string "first", .string "apple", .number 3],
      [.string "west", .string "first", .string "apple", .number 4],
      [.string "east", .string "second", .string "apple", .number 7],
      [.string "west", .string "second", .string "apple", .number 12]]

/-- The apples of each farm and year in a cell of their own, with a scale for their own amount. -/
def appleSpec : ChartSpec Rat :=
  { view := ⟨⟨.bar, none⟩,
      [.field (.plain .x "tons"), .field (.plain .y "fruit"), .field (.plain .column "farm"),
        .field (.plain .row "year")],
      none, none⟩
    facet := ⟨true, none, none⟩
    params := []
    filters := [] }

/-- The axis of fruit stands left of both rows, and each cell has its own axis of amounts. -/
theorem compile_placement_apples :
    ∃ scene, appleSpec.compile apples .standard .heuristic = .ok scene ∧
      (scene.axes.map (fun a ↦ (a.channel, a.placements.length)),
        scene.cells.map (fun cell ↦ cell.axes.map fun a ↦ (a.channel, a.placements.length)),
        scene.headers.map (·.text)) =
        ([(.y, 2)], [[(.x, 1)], [(.x, 1)], [(.x, 1)], [(.x, 1)]],
          ["east", "west", "first", "second"]) ∧
      ∃ grid : FacetGrid Rat, scene.IsPlaced .standard .heuristic grid ∧
        ∃ p : PreparedView Rat, ∃ size,
          List.Forall₂ (p.Shows true size .standard scene.axes) grid.cells scene.cells := by
  have hplaces : (appleSpec.compile apples .standard .heuristic).toOption.map
      (fun scene ↦ (scene.axes.map (fun a ↦ (a.channel, a.placements.length)),
        scene.cells.map (fun cell ↦ cell.axes.map fun a ↦ (a.channel, a.placements.length)),
        scene.headers.map (·.text))) =
      some ([(.y, 2)], [[(.x, 1)], [(.x, 1)], [(.x, 1)], [(.x, 1)]],
        ["east", "west", "first", "second"]) := by
    decide +kernel
  obtain ⟨scene, h, hplaces⟩ := exists_ok_of_map_eq_some hplaces
  obtain ⟨p, grid, -, -, hplaced, hshows⟩ := compile_placement h
  exact ⟨scene, h, hplaces, grid, hplaced, p, _, hshows⟩

end ChartSpec

end Charting
