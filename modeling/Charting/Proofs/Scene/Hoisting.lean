import Charting.Numeric.Exact
import Charting.Proofs.Guide.Generation
import Charting.Proofs.Scene.Placing

/-!
# Shared guides are neither lost nor made up

The guides of cells are sorted into those that all cells share and those that a cell keeps.  Axes
are told apart by their channels and legends by the way they look, but both are sorted by the same
pattern (`Keeps.of_filter`): a cell lets go of a guide exactly if the shared ones have one in its
place.  So each guide of a cell is drawn, and once if it can be compared with itself, and nothing is
drawn that was not generated (`ChartSpec.compile_guides`).
-/

namespace Charting

/-! ## Sorting guides -/

section Sorting

variable {α κ : Type} (same : α → α → Bool) (bare : α → α)

/-- The guides that a cell keeps, besides shared ones, of those that were generated for it, if any
were.  Where a guide is drawn does not matter. -/
structure Keeps (shared : List α) (generated : Option (List α)) (own : List α) : Prop where
  /-- Each guide is there, or one that looks the same. -/
  kept : ∀ gs ∈ generated, ∀ g ∈ gs, ∃ b ∈ shared ++ own, bare b = bare g ∨ same b g = true
  /-- It is not there twice. -/
  once : ∀ gs ∈ generated, ∀ g ∈ gs, same g g = true → (shared ++ own).countP (same · g) = 1
  /-- The guides that are kept were generated. -/
  own_generated : ∀ b ∈ own, ∃ gs ∈ generated, ∃ g ∈ gs, bare b = bare g

/-- The guides that all cells share, and those that each cell keeps, of those that were generated
for each cell. -/
structure IsHoisted (generated : List (Option (List α))) (shared : List α) (own : List (List α)) :
    Prop where
  /-- What each cell keeps. -/
  cells : List.Forall₂ (Keeps same bare shared) generated own
  /-- A shared guide is one of the first cell with guides, and all others have one that looks the
  same. -/
  shared_generated : ∀ b ∈ shared, ∃ first rest, generated.filterMap id = first :: rest ∧
    (∃ g ∈ first, bare b = bare g) ∧ ∀ gs ∈ rest, ∃ g ∈ gs, same g b = true

variable {same bare}

/-- Among things with different keys, only one can pass a test that only one key passes. -/
theorem countP_eq_one {key : α → κ} {p : α → Bool} {xs : List α} (hxs : (xs.map key).Nodup) {x : α}
    (hx : x ∈ xs) (hpx : p x = true) (hp : ∀ y ∈ xs, p y = true → key y = key x) :
    xs.countP p = 1 := by
  induction xs with
  | nil => cases hx
  | cons y xs ih =>
      obtain ⟨hy, hxs⟩ := List.nodup_cons.mp hxs
      rcases List.mem_cons.mp hx with rfl | hx
      · have hnone : xs.countP p = 0 := by
          refine List.countP_eq_zero.mpr fun z hz hpz ↦ hy ?_
          rw [← hp z (List.mem_cons_of_mem _ hz) hpz]
          exact List.mem_map_of_mem hz
        rw [List.countP_cons_of_pos hpx, hnone]
      · have hpy : ¬p y = true := by
          intro hpy
          refine hy ?_
          rw [hp y List.mem_cons_self hpy]
          exact List.mem_map_of_mem hx
        rw [List.countP_cons_of_neg hpy]
        exact ih hxs hx fun z hz ↦ hp z (List.mem_cons_of_mem _ hz)

/-- A cell keeps a guide or lets go of it, which it does exactly if a shared one takes its place. -/
theorem Keeps.of_filter (key : α → κ) (hkey : ∀ a b, same a b = true → key a = key b)
    {shared gs : List α} (hshared : (shared.map key).Nodup) (hgs : (gs.map key).Nodup)
    {keep : α → Bool} (hdrop : ∀ g ∈ gs, keep g = false → ∃ s ∈ shared, s = g ∨ same s g = true)
    (hkeep : ∀ g ∈ gs, keep g = true → ∀ s ∈ shared, same s g = false) :
    Keeps same bare shared (some gs) (gs.filter keep) where
  kept := by
    rintro _ ⟨⟩ g hg
    cases hg' : keep g with
    | true => exact ⟨g, List.mem_append_right _ (List.mem_filter.mpr ⟨hg, hg'⟩), .inl rfl⟩
    | false =>
        obtain ⟨s, hs, hsg⟩ := hdrop g hg hg'
        exact ⟨s, List.mem_append_left _ hs, hsg.imp_left (congrArg bare)⟩
  once := by
    rintro _ ⟨⟩ g hg hgg
    rw [List.countP_append]
    cases hg' : keep g with
    | true =>
        have hnone : shared.countP (same · g) = 0 := by
          refine List.countP_eq_zero.mpr fun s hs ↦ ?_
          rw [hkeep g hg hg' s hs]
          exact Bool.false_ne_true
        have hone : (gs.filter keep).countP (same · g) = 1 := by
          refine countP_eq_one (hgs.sublist (List.filter_sublist.map key))
            (List.mem_filter.mpr ⟨hg, hg'⟩) hgg fun b _ hb ↦ hkey b g hb
        rw [hnone, hone]
    | false =>
        obtain ⟨s, hs, hsg⟩ := hdrop g hg hg'
        have hsg : same s g = true := by
          rcases hsg with rfl | hsg
          · exact hgg
          · exact hsg
        have hone : shared.countP (same · g) = 1 :=
          countP_eq_one hshared hs hsg fun b _ hb ↦ (hkey b g hb).trans (hkey s g hsg).symm
        have hnone : (gs.filter keep).countP (same · g) = 0 := by
          refine List.countP_eq_zero.mpr fun b hb hbg ↦ ?_
          obtain ⟨hb, hbkeep⟩ := List.mem_filter.mp hb
          rw [List.inj_on_of_nodup_map hgs hb hg (hkey b g hbg), hg'] at hbkeep
          cases hbkeep
        rw [hone, hnone]
  own_generated b hb := ⟨gs, rfl, b, (List.mem_filter.mp hb).1, rfl⟩

theorem Keeps.none (shared : List α) : Keeps same bare shared .none [] where
  kept := by rintro _ ⟨⟩
  once := by rintro _ ⟨⟩
  own_generated b hb := by cases hb

/-- Guides that are the same but for their places are in corresponding lists. -/
theorem exists_mem_of_map_eq {xs ys : List α} (h : ys.map bare = xs.map bare) {x : α}
    (hx : x ∈ xs) : ∃ y ∈ ys, bare y = bare x := by
  have hmem : bare x ∈ ys.map bare := h ▸ List.mem_map_of_mem hx
  exact List.mem_map.mp hmem

/-- Putting guides into their places loses nothing. -/
theorem Keeps.of_bare (hsame : ∀ a b, same (bare a) b = same a b) {shared shared' : List α}
    {generated : Option (List α)} {own own' : List α} (h : Keeps same bare shared generated own)
    (hshared : shared'.map bare = shared.map bare) (hown : own'.map bare = own.map bare) :
    Keeps same bare shared' generated own' where
  kept gs hgs g hg := by
    have hall : (shared' ++ own').map bare = (shared ++ own).map bare := by
      rw [List.map_append, List.map_append, hshared, hown]
    obtain ⟨b, hb, hbg⟩ := h.kept gs hgs g hg
    obtain ⟨b', hb', hbare⟩ := exists_mem_of_map_eq hall hb
    refine ⟨b', hb', ?_⟩
    rwa [hbare, ← hsame b', hbare, hsame]
  once gs hgs g hg hgg := by
    have hcount (xs : List α) : xs.countP (same · g) = (xs.map bare).countP (same · g) := by
      rw [List.countP_map]
      exact List.countP_congr fun b _ ↦ by rw [Function.comp_apply, hsame]
    rw [hcount, List.map_append, hshared, hown, ← List.map_append, ← hcount]
    exact h.once gs hgs g hg hgg
  own_generated b hb := by
    obtain ⟨b', hb', hbare⟩ := exists_mem_of_map_eq hown.symm hb
    obtain ⟨gs, hgs, g, hg, hbg⟩ := h.own_generated b' hb'
    exact ⟨gs, hgs, g, hg, hbare.symm.trans hbg⟩

/-- All guides that are drawn were generated. -/
theorem IsHoisted.exists_generated {generated : List (Option (List α))} {shared : List α}
    {own : List (List α)} (h : IsHoisted same bare generated shared own) {b : α}
    (hb : b ∈ shared ++ own.flatten) : ∃ gs, some gs ∈ generated ∧ ∃ g ∈ gs, bare b = bare g := by
  rcases List.mem_append.mp hb with hb | hb
  · obtain ⟨first, rest, hfirst, hg, -⟩ := h.shared_generated b hb
    have hmem : first ∈ generated.filterMap id := hfirst ▸ List.mem_cons_self
    obtain ⟨_, hmem, rfl⟩ := List.mem_filterMap.mp hmem
    exact ⟨first, hmem, hg⟩
  · obtain ⟨os, hos, hb⟩ := List.mem_flatten.mp hb
    obtain ⟨i, hi, rfl⟩ := List.mem_iff_getElem.mp hos
    have hi' : i < generated.length := h.cells.length_eq ▸ hi
    obtain ⟨gs, hgs, hg⟩ := (h.cells.get hi' hi).own_generated b hb
    refine ⟨gs, ?_, hg⟩
    rw [← Option.mem_def.mp hgs]
    exact List.getElem_mem hi'

/-- A shared guide was generated for each cell with guides, but for looking the same. -/
theorem IsHoisted.exists_of_shared {generated : List (Option (List α))} {shared : List α}
    {own : List (List α)} (h : IsHoisted same bare generated shared own) {b : α} (hb : b ∈ shared)
    {gs : List α} (hgs : some gs ∈ generated) : ∃ g ∈ gs, bare b = bare g ∨ same g b = true := by
  obtain ⟨first, rest, hpresent, ⟨g, hg, hbare⟩, hrest⟩ := h.shared_generated b hb
  have hmem : gs ∈ first :: rest := hpresent ▸ List.mem_filterMap.mpr ⟨some gs, hgs, rfl⟩
  rcases List.mem_cons.mp hmem with rfl | hmem
  · exact ⟨g, hg, .inl hbare⟩
  · obtain ⟨g', hg', hsame⟩ := hrest gs hmem
    exact ⟨g', hg', .inr hsame⟩

end Sorting

variable {R : Type}

/-! ## Guides of cells -/

namespace Guides

/-- No two axes are about the same channel, and no two legends about the same field. -/
structure Distinct (g : Guides R) : Prop where
  /-- The channels of the axes. -/
  axes : (g.axes.map (·.channel)).Nodup
  /-- The channels are such that have axes. -/
  channels : ∀ a ∈ g.axes, a.channel ∈ axisChannels
  /-- The fields of the legends. -/
  legends : (g.legends.map Legend.key).Nodup

variable {g : Guides R} {all : List (Guides R)} {a s : Axis R} {c : Channel}

theorem Distinct.axis?_eq (hg : g.Distinct) (ha : a ∈ g.axes) (hs : g.axis? a.channel = some s) :
    s = a := by
  have hchannel : s.channel = a.channel := by simpa using List.find?_some hs
  exact List.inj_on_of_nodup_map hg.axes (List.mem_of_find?_eq_some hs) ha hchannel

variable [Scalar R]

/-- An axis is shared if the first cell has it, and the others have one that looks the same. -/
theorem exists_of_sharedAxis? (h : sharedAxis? c all = some s) : s.channel = c ∧
    ∃ first rest, all = first :: rest ∧ first.axis? c = some s ∧
      ∀ g ∈ rest, ∃ a, g.axis? c = some a ∧ a.same s = true := by
  cases all with
  | nil => cases h
  | cons first rest =>
      obtain ⟨s', hfirst, h⟩ := Option.bind_eq_some_iff.mp h
      split at h
      case isTrue hrest =>
        obtain rfl := Option.some.inj h
        have hchannel : s'.channel = c := by simpa using List.find?_some hfirst
        refine ⟨hchannel, first, rest, rfl, hfirst, fun g hg ↦ ?_⟩
        exact (Option.any_eq_true _ _).mp (List.all_eq_true.mp hrest g hg)
      case isFalse => cases h

theorem nodup_sharedAxes (all : List (Guides R)) :
    ((sharedAxes all).map (·.channel)).Nodup :=
  nodup_map_filterMap (fun _ _ h ↦ (exists_of_sharedAxis? h).1) (by decide)

/-- No two shared legends are about the same field. -/
theorem nodup_sharedLegends (hall : ∀ g ∈ all, g.Distinct) :
    ((sharedLegends all).map Legend.key).Nodup := by
  cases all with
  | nil => exact .nil
  | cons first rest =>
      exact (hall first List.mem_cons_self).legends.sublist (List.filter_sublist.map Legend.key)

theorem channel_eq_of_same {a b : Axis R} (h : a.same b = true) : a.channel = b.channel := by
  simp only [Axis.same, Bool.and_eq_true, beq_iff_eq] at h
  exact h.1.1.1.1.1.1

/-- Legends that look the same are about the same field. -/
theorem key_eq_of_same {l m : Legend R} (h : l.same m = true) : l.key = m.key := by
  simp only [Legend.same, Bool.and_eq_true, beq_iff_eq] at h
  obtain ⟨⟨⟨⟨⟨⟨⟨-, hfield⟩, htype⟩, -⟩, -⟩, -⟩, -⟩, -⟩ := h
  exact Prod.ext hfield htype

/-- A shared axis takes the place of the one of its channel. -/
theorem exists_sharedAxis [LawfulScalar R] (hall : ∀ g ∈ all, g.Distinct) (hg : g ∈ all)
    (ha : a ∈ g.axes) (hs : s ∈ sharedAxes all) (hchannel : s.channel = a.channel) :
    s = a ∨ s.same a = true := by
  obtain ⟨c, -, hs⟩ := List.mem_filterMap.mp hs
  obtain ⟨hc, first, rest, rfl, hfirst, hrest⟩ := exists_of_sharedAxis? hs
  obtain rfl : c = a.channel := hc.symm.trans hchannel
  rcases List.mem_cons.mp hg with rfl | hmem
  · exact .inl ((hall g hg).axis?_eq ha hfirst)
  · obtain ⟨b, hb, hsame⟩ := hrest g hmem
    rw [(hall g hg).axis?_eq ha hb, Axis.same_comm] at hsame
    exact .inr hsame

/-- The axes that a cell keeps. -/
theorem keeps_axes [LawfulScalar R] (hall : ∀ g ∈ all, g.Distinct) (hg : g ∈ all)
    (legends : List (Legend R)) :
    Keeps Axis.same Axis.bare (sharedAxes all) (some g.axes)
      (g.own (sharedAxes all) legends).axes := by
  refine Keeps.of_filter Axis.channel (fun _ _ ↦ channel_eq_of_same) (nodup_sharedAxes all)
    (hall g hg).axes (fun a ha hdrop ↦ ?_) fun a ha hkeep s hs ↦ ?_
  · rw [Bool.not_eq_false', List.any_eq_true] at hdrop
    obtain ⟨s, hs, hchannel⟩ := hdrop
    exact ⟨s, hs, exists_sharedAxis hall hg ha hs (beq_iff_eq.mp hchannel)⟩
  · rw [Bool.not_eq_true', List.any_eq_false] at hkeep
    exact Bool.eq_false_iff.mpr fun hsame ↦ hkeep s hs (beq_iff_eq.mpr (channel_eq_of_same hsame))

/-- The legends that a cell keeps. -/
theorem keeps_legends (hall : ∀ g ∈ all, g.Distinct) (hg : g ∈ all) (axes : List (Axis R)) :
    Keeps Legend.same Legend.bare (sharedLegends all) (some g.legends)
      (g.own axes (sharedLegends all)).legends := by
  refine Keeps.of_filter Legend.key (fun _ _ ↦ key_eq_of_same) (nodup_sharedLegends hall)
    (hall g hg).legends (fun l hl hdrop ↦ ?_) fun l hl hkeep s hs ↦ ?_
  · rw [Bool.not_eq_false', List.any_eq_true] at hdrop
    obtain ⟨s, hs, hsame⟩ := hdrop
    exact ⟨s, hs, .inr hsame⟩
  · rw [Bool.not_eq_true', List.any_eq_false] at hkeep
    exact Bool.eq_false_iff.mpr (hkeep s hs)

end Guides

/-- What is generated for the cells that have guides. -/
theorem CellPlot.filterMap_guides {α : Type} (f : Guides R → List α) (plots : List (CellPlot R)) :
    (plots.map fun q ↦ q.guides.map f).filterMap id = (plots.filterMap (·.guides)).map f := by
  rw [List.filterMap_map, List.map_filterMap]
  rfl

variable [Scalar R]

/-- The guides of a plotted cell are distinct. -/
theorem PreparedView.IsPlot.distinct {p : PreparedView R} {independent : Bool} {size : Size R}
    {config : Config R} {cell : FacetCell R} {plot : CellPlot R}
    (h : p.IsPlot independent size config cell plot) : ∀ g ∈ plot.guides, g.Distinct := by
  cases h with
  | empty => rintro _ ⟨⟩
  | drawn hrows hencodings hmarks =>
      have hfit := ViewSpec.scalesFit_of_resolve hencodings
      rintro _ ⟨⟩
      exact
        { axes := Encodings.nodup_axes hfit
          channels := fun a ha ↦ (Encodings.exists_of_mem_axes hfit ha).1
          legends := Encodings.nodup_legends _ _ }

/-! ## Guides of scenes -/

namespace SharedPlots

variable (grid : FacetGrid R) {plots : List (CellPlot R)}
  (hplots : ∀ q ∈ plots, ∀ g ∈ q.guides, g.Distinct) (layout : Layout R)

include hplots

/-- Each cell keeps what the cells do not share. -/
theorem keeps_keptBy [LawfulScalar R] {q : CellPlot R} (hq : q ∈ plots) :
    let s := ofPlots grid plots
    Keeps Axis.same Axis.bare s.shared.axes (q.guides.map (·.axes)) (s.keptBy q).axes ∧
      Keeps Legend.same Legend.bare s.shared.legends (q.guides.map (·.legends))
        (s.keptBy q).legends := by
  have hall : ∀ g ∈ plots.filterMap (·.guides), g.Distinct := by
    intro g hg
    obtain ⟨q, hq, hqg⟩ := List.mem_filterMap.mp hg
    exact hplots q hq g hqg
  intro s
  rw [keptBy]
  cases hg : q.guides with
  | none => exact ⟨Keeps.none _, Keeps.none _⟩
  | some g =>
      have hmem : g ∈ plots.filterMap (·.guides) := List.mem_filterMap.mpr ⟨q, hq, hg⟩
      exact ⟨Guides.keeps_axes hall hmem _, Guides.keeps_legends hall hmem _⟩

/-- Each cell of a scene keeps what the cells do not share. -/
theorem forall₂_keeps [LawfulScalar R] :
    let scene := (ofPlots grid plots).place layout
    List.Forall₂ (fun q cell ↦
      Keeps Axis.same Axis.bare scene.axes (q.guides.map (·.axes)) cell.axes ∧
      Keeps Legend.same Legend.bare scene.legends (q.guides.map (·.legends)) cell.legends)
      plots scene.cells := by
  refine List.forall₂_iff_get.mpr ⟨(length_cells_ofPlots grid layout).symm, fun i hi hi' ↦ ?_⟩
  obtain ⟨rects, hcell⟩ := getElem?_cells_ofPlots grid layout (List.getElem?_eq_getElem hi)
  rw [List.getElem?_eq_getElem hi'] at hcell
  obtain ⟨haxes, hlegends⟩ := keeps_keptBy grid hplots (List.getElem_mem hi)
  rw [List.get_eq_getElem, List.get_eq_getElem, Option.some.inj hcell]
  constructor
  · refine haxes.of_bare ?_ ?_ ?_
    · exact fun _ _ ↦ rfl
    · exact List.map_map
    · exact List.map_map
  · refine hlegends.of_bare ?_ ?_ ?_
    · exact fun _ _ ↦ rfl
    · exact map_bare_placeLegends _ _
    · exact map_bare_placeLegends _ _

/-- The axes of a scene are shared. -/
theorem isHoisted_axes [LawfulScalar R] :
    let scene := (ofPlots grid plots).place layout
    IsHoisted Axis.same Axis.bare (plots.map fun q ↦ q.guides.map (·.axes)) scene.axes
      (scene.cells.map (·.axes)) where
  cells := by
    rw [List.forall₂_map_left_iff, List.forall₂_map_right_iff]
    exact (forall₂_keeps grid hplots layout).imp fun _ _ ↦ And.left
  shared_generated b hb := by
    obtain ⟨s, hs, rfl⟩ := List.mem_map.mp hb
    obtain ⟨c, -, hs⟩ := List.mem_filterMap.mp hs
    obtain ⟨-, first, rest, hpresent, hfirst, hrest⟩ := Guides.exists_of_sharedAxis? hs
    refine ⟨first.axes, rest.map (·.axes), ?_, ?_, fun gs hgs ↦ ?_⟩
    · rw [CellPlot.filterMap_guides, hpresent, List.map_cons]
    · exact ⟨s, List.mem_of_find?_eq_some hfirst, rfl⟩
    · obtain ⟨g, hg, rfl⟩ := List.mem_map.mp hgs
      obtain ⟨a, ha, hsame⟩ := hrest g hg
      exact ⟨a, List.mem_of_find?_eq_some ha, hsame⟩

/-- The legends of a scene are shared. -/
theorem isHoisted_legends [LawfulScalar R] :
    let scene := (ofPlots grid plots).place layout
    IsHoisted Legend.same Legend.bare (plots.map fun q ↦ q.guides.map (·.legends)) scene.legends
      (scene.cells.map (·.legends)) where
  cells := by
    rw [List.forall₂_map_left_iff, List.forall₂_map_right_iff]
    exact (forall₂_keeps grid hplots layout).imp fun _ _ ↦ And.right
  shared_generated b hb := by
    obtain ⟨s, hs, hbare⟩ := exists_mem_of_map_eq (map_bare_placeLegends _ _).symm hb
    change s ∈ Guides.sharedLegends (plots.filterMap (·.guides)) at hs
    cases hpresent : plots.filterMap (·.guides) with
    | nil =>
        rw [hpresent] at hs
        cases hs
    | cons first rest =>
        rw [hpresent] at hs
        obtain ⟨hs, hrest⟩ := List.mem_filter.mp hs
        refine ⟨first.legends, rest.map (·.legends), ?_, ⟨s, hs, hbare.symm⟩, fun gs hgs ↦ ?_⟩
        · rw [CellPlot.filterMap_guides, hpresent, List.map_cons]
        · obtain ⟨g, hg, rfl⟩ := List.mem_map.mp hgs
          obtain ⟨l, hl, hsame⟩ := List.any_eq_true.mp (List.all_eq_true.mp hrest g hg)
          refine ⟨l, hl, ?_⟩
          change l.same b.bare = true
          rw [← hbare]
          exact hsame

end SharedPlots

/-! ## Compilation -/

namespace ChartSpec

variable {spec : ChartSpec R} {data : Dataset R} {config : Config R} {measurer : TextMeasurer R}
  {scene : Scene R}

/-- The axes and legends that are generated for the cells of a chart are sorted into those of the
scene and those of its cells, and none gets lost, is drawn twice or is made up. -/
theorem compile_guides [LawfulScalar R] (h : spec.compile data config measurer = .ok scene) :
    ∃ p grid plots, spec.view.prepare data = .ok p ∧
      partition p.data p.data.rows (p.view.field? .column) (p.view.field? .row) = .ok grid ∧
      List.Forall₂ (p.IsPlot spec.facet.independentScales
        (spec.cellSize grid.columns.size grid.rows.size config) config) grid.cells plots ∧
      List.Forall₂ CellPlot.IsShownAs plots scene.cells ∧
      IsHoisted Axis.same Axis.bare (plots.map fun q ↦ q.guides.map (·.axes)) scene.axes
        (scene.cells.map (·.axes)) ∧
      IsHoisted Legend.same Legend.bare (plots.map fun q ↦ q.guides.map (·.legends)) scene.legends
        (scene.cells.map (·.legends)) := by
  obtain ⟨-, p, grid, plots, hp, hgrid, hplots, rfl⟩ := compile_ok_iff.mp h
  have hplots := PreparedView.isPlot_of_plots hplots
  have hdistinct : ∀ q ∈ plots, ∀ g ∈ q.guides, g.Distinct := by
    intro q hq
    obtain ⟨cell, hcell⟩ := exists_of_forall₂ hplots.flip q hq
    exact hcell.distinct
  have hown : (SharedPlots.ofPlots grid plots).own.length = plots.length := List.length_map _
  exact ⟨p, grid, plots, hp, hgrid, hplots, SharedPlots.forall₂_place hown _,
    SharedPlots.isHoisted_axes _ hdistinct _, SharedPlots.isHoisted_legends _ hdistinct _⟩

/-- The fruit of two farms. -/
def orchards : Dataset Rat :=
  .ofRows [.untyped "farm", .untyped "fruit", .untyped "tons"]
    [[.string "east", .string "apple", .number 3], [.string "east", .string "pear", .number 5],
      [.string "west", .string "apple", .number 4], [.string "west", .string "pear", .number 8]]

/-- The fruit of each farm in a cell of its own, with a scale for its own amounts. -/
def orchardSpec : ChartSpec Rat :=
  { view := ⟨⟨.point, none⟩,
      [.field (.plain .x "fruit"), .field (.plain .y "tons"), .field (.plain .color "fruit"),
        .field (.plain .column "farm")],
      none, none⟩
    facet := ⟨true, none, none⟩
    params := []
    filters := [] }

/-- The farms share what explains the fruit, and each of them has its own axis of amounts. -/
theorem compile_guides_orchards :
    ∃ scene, orchardSpec.compile orchards .standard .heuristic = .ok scene ∧
      (scene.axes.map (·.channel), scene.legends.map (·.field),
        scene.cells.map fun cell ↦ cell.axes.map (·.channel)) = ([.x], ["fruit"], [[.y], [.y]]) ∧
      ∃ plots : List (CellPlot Rat), List.Forall₂ CellPlot.IsShownAs plots scene.cells ∧
        IsHoisted Axis.same Axis.bare (plots.map fun q ↦ q.guides.map (·.axes)) scene.axes
          (scene.cells.map (·.axes)) ∧
        IsHoisted Legend.same Legend.bare (plots.map fun q ↦ q.guides.map (·.legends))
          scene.legends (scene.cells.map (·.legends)) := by
  have hguides : (orchardSpec.compile orchards .standard .heuristic).toOption.map
      (fun scene ↦ (scene.axes.map (·.channel), scene.legends.map (·.field),
        scene.cells.map fun cell ↦ cell.axes.map (·.channel))) =
      some ([.x], ["fruit"], [[.y], [.y]]) := by
    decide +kernel
  obtain ⟨scene, h, hguides⟩ := exists_ok_of_map_eq_some hguides
  obtain ⟨p, grid, plots, -, -, -, hshown, haxes, hlegends⟩ := compile_guides h
  exact ⟨scene, h, hguides, plots, hshown, haxes, hlegends⟩

end ChartSpec

end Charting
