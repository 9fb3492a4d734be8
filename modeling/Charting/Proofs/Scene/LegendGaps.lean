import Charting.Proofs.Scene.Placing
import Charting.Proofs.Scene.Tiling

/-!
# Gaps between legends

Legends that stand at the same side or in the same corner are stacked: down, to the right, or in the
lower corners up.  A stack only moves on (`LegendBox.exists_of_mem_stack`), so that each legend
follows all legends before it with a gap (`LegendBox.pairwise_stack`).  The legends of a scene get
the rectangles of one stack, wherever they belong (`SharedPlots.allLegends_place`), and so no two of
them overlap that stand in the same place (`ChartSpec.legends_spaced`).
-/

namespace Charting

/-! ## Directions of stacks -/

namespace LegendOrient

variable {o : LegendOrient} {gap : ℚ}

/-- Whether a rectangle follows another one in the direction of a stack, with a gap between them. -/
def Follows (o : LegendOrient) (gap : ℚ) (r s : Rect ℚ) : Prop :=
  match o with
  | .left | .right | .topLeft | .topRight => r.y1 + gap ≤ s.y0
  | .top | .bottom => r.x1 + gap ≤ s.x0
  | .bottomLeft | .bottomRight => s.y1 + gap ≤ r.y0

/-- Whether a place of a stack is not before another one. -/
def Forward (o : LegendOrient) (p q : ℚ) : Prop :=
  match o with
  | .left | .right | .topLeft | .topRight | .top | .bottom => p ≤ q
  | .bottomLeft | .bottomRight => q ≤ p

@[refl] theorem Forward.refl (o : LegendOrient) (p : ℚ) : o.Forward p p := by
  cases o <;> exact le_refl p

theorem Forward.trans {p q r : ℚ} (h : o.Forward p q) (h' : o.Forward q r) : o.Forward p r := by
  cases o
  case bottomLeft | bottomRight => exact le_trans (α := ℚ) h' h
  all_goals exact le_trans (α := ℚ) h h'

/-- What follows a rectangle does not overlap it. -/
theorem Follows.apartFrom {r s : Rect ℚ} (hgap : 0 ≤ gap) (h : o.Follows gap r s) :
    r.ApartFrom s := by
  cases o
  case top | bottom => exact Rect.apartFrom_of_x (.inl ((le_add_of_nonneg_right hgap).trans h))
  case bottomLeft | bottomRight =>
    exact Rect.apartFrom_of_y (.inr ((le_add_of_nonneg_right hgap).trans h))
  all_goals exact Rect.apartFrom_of_y (.inl ((le_add_of_nonneg_right hgap).trans h))

end LegendOrient

/-! ## Stacks -/

namespace LegendBox

variable {frame plot : Rect ℚ} {gap : ℚ} {taken : LegendOrient → Option ℚ}
  {boxes : List (LegendBox ℚ)} {b b' : LegendBox ℚ} {r : Rect ℚ}

/-- A stack moves on with every legend. -/
theorem forward_next (hgap : 0 ≤ gap) (b : LegendBox ℚ) (at₀ : ℚ) :
    b.orient.Forward at₀ (b.next gap at₀) := by
  have hwidth : 0 ≤ b.width + gap := add_nonneg (nonneg_nonneg _) hgap
  have hheight : 0 ≤ b.height + gap := add_nonneg (nonneg_nonneg _) hgap
  unfold next
  cases b.orient
  case bottomLeft | bottomRight => exact sub_le_self at₀ hheight
  case top | bottom => exact le_add_of_nonneg_right hwidth
  all_goals exact le_add_of_nonneg_right hheight

/-- A legend has the size that it asks for, and none in place of a negative one. -/
theorem size_rect (b : LegendBox ℚ) (frame plot : Rect ℚ) (at₀ : ℚ) :
    (b.rect frame plot at₀).width = b.width ∧ (b.rect frame plot at₀).height = b.height := by
  unfold rect Rect.width Rect.height
  cases b.orient <;> constructor <;> dsimp only <;> linarith

/-- A legend that is put where the stack has come to after another one, or further on, follows this
one. -/
theorem follows_rect (horient : b.orient = b'.orient) {at₀ at₁ : ℚ}
    (h : b.orient.Forward (b.next gap at₀) at₁) :
    b.orient.Follows gap (b.rect frame plot at₀) (b'.rect frame plot at₁) := by
  revert h
  unfold next rect
  rw [← horient]
  cases b.orient <;> intro h <;>
    dsimp only [LegendOrient.Forward, LegendOrient.Follows] at h ⊢ <;> linarith

theorem length_stack (taken : LegendOrient → Option ℚ) (boxes : List (LegendBox ℚ)) :
    (stack frame plot gap taken boxes).length = boxes.length := by
  induction boxes generalizing taken with
  | nil => rfl
  | cons b boxes ih => rw [stack, List.length_cons, ih, List.length_cons]

/-- A legend is put somewhere. -/
theorem exists_rect_of_mem_stack (h : (b, r) ∈ boxes.zip (stack frame plot gap taken boxes)) :
    ∃ at₀, r = b.rect frame plot at₀ := by
  induction boxes generalizing taken with
  | nil => cases h
  | cons a boxes ih =>
      rcases List.mem_cons.mp h with heq | h
      · obtain ⟨rfl, rfl⟩ := Prod.mk.inj heq
        exact ⟨_, rfl⟩
      · exact ih h

/-- A legend is put where its stack has come to, or further on. -/
theorem exists_of_mem_stack (hgap : 0 ≤ gap) {at₀ : ℚ} (htaken : taken b.orient = some at₀)
    (h : (b, r) ∈ boxes.zip (stack frame plot gap taken boxes)) :
    ∃ at₁, b.orient.Forward at₀ at₁ ∧ r = b.rect frame plot at₁ := by
  induction boxes generalizing taken at₀ with
  | nil => cases h
  | cons a boxes ih =>
      rcases List.mem_cons.mp h with heq | h
      · obtain ⟨rfl, rfl⟩ := Prod.mk.inj heq
        rw [htaken]
        exact ⟨at₀, .refl _ _, rfl⟩
      · by_cases ha : b.orient = a.orient
        · have hstep := forward_next hgap a at₀
          rw [← ha] at hstep
          obtain ⟨at₁, hforward, hr⟩ := ih (by rw [if_pos ha, ← ha, htaken, Option.getD_some]) h
          exact ⟨at₁, hstep.trans hforward, hr⟩
        · exact ih (by rw [if_neg ha, htaken]) h

/-- Legends that stand in the same place follow one another. -/
theorem pairwise_stack (hgap : 0 ≤ gap) (frame plot : Rect ℚ) (taken : LegendOrient → Option ℚ)
    (boxes : List (LegendBox ℚ)) :
    (boxes.zip (stack frame plot gap taken boxes)).Pairwise fun x y ↦
      x.1.orient = y.1.orient → x.1.orient.Follows gap x.2 y.2 := by
  induction boxes generalizing taken with
  | nil => exact .nil
  | cons a boxes ih =>
      refine List.pairwise_cons.mpr ⟨?_, ih _⟩
      rintro ⟨b, r⟩ hmem (horient : a.orient = b.orient)
      obtain ⟨at₁, hforward, rfl⟩ := exists_of_mem_stack hgap (if_pos horient.symm) hmem
      exact follows_rect horient (horient ▸ hforward)

end LegendBox

/-! ## Legends of a scene -/

namespace SharedPlots

section Places

variable {R : Type} [Scalar R]

theorem getElem?_placeLegends (legends : List (Legend R)) (rects : List (Rect R)) (i : Nat) :
    (placeLegends legends rects)[i]? =
      legends[i]?.map fun l ↦ { l with bounds := rects[i]?.getD default } := by
  rw [placeLegends, List.getElem?_map, List.getElem?_zipIdx, Option.map_map, Nat.zero_add]
  rfl

/-- Legends that come later get later rectangles. -/
theorem placeLegends_append (before after : List (Legend R)) (rects : List (Rect R)) :
    placeLegends (before ++ after) rects =
      placeLegends before rects ++ placeLegends after (rects.drop before.length) := by
  have hlength : (placeLegends before rects).length = before.length := by
    rw [placeLegends, List.length_map, List.length_zipIdx]
  refine List.ext_getElem? fun i ↦ ?_
  rw [getElem?_placeLegends]
  rcases Nat.lt_or_ge i before.length with hi | hi
  · rw [List.getElem?_append_left hi, List.getElem?_append_left (by rwa [hlength]),
      getElem?_placeLegends]
  · rw [List.getElem?_append_right hi, List.getElem?_append_right (by rwa [hlength]),
      getElem?_placeLegends, List.getElem?_drop, hlength, Nat.add_sub_cancel' hi]

/-- The cells together get the rectangles that all their legends would get. -/
theorem flatten_placeCellLegends (own : List (Guides R)) (rects : List (Rect R)) :
    (placeCellLegends own rects).flatten = placeLegends (own.flatMap (·.legends)) rects := by
  induction own generalizing rects with
  | nil => rfl
  | cons g own ih =>
      rw [placeCellLegends, List.flatten_cons, ih, List.flatMap_cons, placeLegends_append]

/-- All legends get rectangles in turn, whether the cells share them or not. -/
theorem allLegends_place {s : SharedPlots R} (h : s.own.length = s.plots.length)
    (layout : Layout R) : (s.place layout).allLegends = placeLegends s.legends layout.legends := by
  have hown : (placeCellLegends s.own (layout.legends.drop s.shared.legends.length)).length ≤
      s.own.length :=
    Nat.le_of_eq (length_placeCellLegends _ _)
  have hplots : (s.own.zip (placeCellLegends s.own
      (layout.legends.drop s.shared.legends.length))).length ≤ s.plots.length := by
    rw [List.length_zip, length_placeCellLegends, Nat.min_self]
    exact Nat.le_of_eq h
  have hcells : (s.place layout).cells.map (·.legends) =
      placeCellLegends s.own (layout.legends.drop s.shared.legends.length) := by
    conv => rhs; rw [← List.map_snd_zip hown, ← List.map_snd_zip hplots]
    rw [place, List.map_map, List.map_map]
    conv => rhs; rw [← List.zipIdx_map_fst 0 (s.plots.zip _), List.map_map]
    rfl
  rw [Scene.allLegends, List.flatMap_def, hcells, flatten_placeCellLegends, legends,
    placeLegends_append]
  rfl

/-- If there is a rectangle for each legend, then each legend gets its own. -/
theorem placeLegends_eq {legends : List (Legend R)} {rects : List (Rect R)}
    (h : rects.length = legends.length) :
    placeLegends legends rects = (legends.zip rects).map fun x ↦ { x.1 with bounds := x.2 } := by
  refine List.ext_getElem? fun i ↦ ?_
  rw [getElem?_placeLegends, List.getElem?_map]
  rcases Nat.lt_or_ge i legends.length with hi | hi
  · have hrect := List.getElem?_eq_getElem (h.symm ▸ hi : i < rects.length)
    have hzip : (legends.zip rects)[i]? = some (legends[i], rects[i]) :=
      List.getElem?_zip_eq_some.mpr ⟨List.getElem?_eq_getElem hi, hrect⟩
    rw [List.getElem?_eq_getElem hi, hrect, hzip]
    rfl
  · have hzip : (legends.zip rects).length ≤ i := by rwa [List.length_zip, h, Nat.min_self]
    rw [List.getElem?_eq_none hi, List.getElem?_eq_none hzip]
    rfl

end Places

/-- The room that is kept for a legend. -/
def box (config : Config ℚ) (m : TextMeasurer ℚ) (l : Legend ℚ) : LegendBox ℚ :=
  ⟨l.measure config.legend m, l.orient, config.legendOffset⟩

variable {s : SharedPlots ℚ}

/-- Each legend of a scene has a rectangle of the stack of all legends. -/
theorem allLegends_eq (h : s.own.length = s.plots.length) (size : Size ℚ) (config : Config ℚ)
    (m : TextMeasurer ℚ) : ∃ frame plot : Rect ℚ,
      (s.place (s.layoutSpec size config m).arrange).allLegends =
        (s.legends.zip (LegendBox.stack frame plot (nonneg config.legendSpacing) (fun _ ↦ none)
          (s.legends.map (box config m)))).map fun x ↦ { x.1 with bounds := x.2 } := by
  refine ⟨(s.layoutSpec size config m).frame, (s.layoutSpec size config m).plot, ?_⟩
  rw [allLegends_place h]
  refine placeLegends_eq ?_
  exact (LegendBox.length_stack _ _).trans (List.length_map _)

end SharedPlots

namespace ChartSpec

variable {spec : ChartSpec ℚ} {data : Dataset ℚ} {config : Config ℚ} {m : TextMeasurer ℚ}
  {scene : Scene ℚ}

/-- The legends of a scene have the sizes that they ask for, and those that stand in the same place
follow one another and do not overlap. -/
theorem legends_spaced (h : spec.compile data config m = .ok scene) :
    (∀ l ∈ scene.allLegends, l.bounds.width = max (l.measure config.legend m).width 0 ∧
      l.bounds.height = max (l.measure config.legend m).height 0) ∧
    scene.allLegends.Pairwise fun l l' ↦ l.orient = l'.orient →
      l.bounds.ApartFrom l'.bounds ∧
        l.orient.Follows (max config.legendSpacing 0) l.bounds l'.bounds := by
  obtain ⟨-, p, grid, plots, -, -, -, rfl⟩ := compile_ok_iff.mp h
  have hown : (SharedPlots.ofPlots grid plots).own.length = plots.length := List.length_map _
  obtain ⟨frame, plot, hlegends⟩ := SharedPlots.allLegends_eq hown
    (spec.cellSize grid.columns.size grid.rows.size config) config m
  generalize (SharedPlots.ofPlots grid plots).legends = legends at hlegends
  rw [hlegends]
  constructor
  · intro l hl
    obtain ⟨⟨l, r⟩, hmem, rfl⟩ := List.mem_map.mp hl
    have hbox : (SharedPlots.box config m l, r) ∈ (legends.map (SharedPlots.box config m)).zip
        (LegendBox.stack frame plot (nonneg config.legendSpacing) (fun _ ↦ none)
          (legends.map (SharedPlots.box config m))) := by
      rw [List.zip_map_left]
      exact List.mem_map_of_mem hmem
    obtain ⟨at₀, rfl⟩ := LegendBox.exists_rect_of_mem_stack hbox
    obtain ⟨hwidth, hheight⟩ := (SharedPlots.box config m l).size_rect frame plot at₀
    exact ⟨hwidth.trans (nonneg_eq_max _), hheight.trans (nonneg_eq_max _)⟩
  · have hgap : 0 ≤ nonneg config.legendSpacing := nonneg_nonneg _
    have hstack := LegendBox.pairwise_stack hgap frame plot (fun _ ↦ none)
      (legends.map (SharedPlots.box config m))
    rw [List.zip_map_left, List.pairwise_map] at hstack
    rw [List.pairwise_map]
    refine hstack.imp fun {x y} hfollows horient ↦ ?_
    have hfollows := hfollows horient
    exact ⟨hfollows.apartFrom hgap, nonneg_eq_max config.legendSpacing ▸ hfollows⟩

/-! ### Two groves -/

/-- The heights of trees in two groves. -/
def groves : Dataset ℚ :=
  .ofRows [.untyped "grove", .untyped "tree", .untyped "height"]
    [[.string "north", .string "oak", .number 20], [.string "south", .string "oak", .number 10]]

/-- The trees of each grove in a cell of its own, with a legend for their heights in the lower right
corner. -/
def groveSpec : ChartSpec ℚ where
  view :=
    ⟨⟨.point, none⟩,
      [.field (.plain .x "height"), .field (.plain .color "tree"),
        .field { FieldBinding.plain .opacity "height" with
          legend := .custom ⟨some .bottomRight, none, none⟩ },
        .field (.plain .column "grove")],
      none, none⟩
  facet := ⟨true, none, none⟩
  params := []
  filters := []

/-- The groves share a legend of trees.  The legend of the heights in the southern grove is above
that of the heights in the northern one. -/
theorem legends_spaced_groves :
    ∃ scene, groveSpec.compile groves .standard .heuristic = .ok scene ∧
      scene.legends.length = 1 ∧
      scene.allLegends.map (fun l ↦ (l.orient, l.bounds.y0, l.bounds.y1)) =
        [(.right, 24, 49), (.bottomRight, 217, 306), (.bottomRight, 100, 205)] ∧
      (∀ l ∈ scene.allLegends,
        l.bounds.width =
          max (l.measure (Config.standard : Config ℚ).legend .heuristic).width 0 ∧
        l.bounds.height =
          max (l.measure (Config.standard : Config ℚ).legend .heuristic).height 0) ∧
      scene.allLegends.Pairwise fun l l' ↦ l.orient = l'.orient →
        l.bounds.ApartFrom l'.bounds ∧
          l.orient.Follows (max (Config.standard : Config ℚ).legendSpacing 0) l.bounds
            l'.bounds := by
  have hcomputed : (groveSpec.compile groves .standard .heuristic).toOption.map
      (fun scene ↦ (scene.legends.length,
        scene.allLegends.map fun l ↦ (l.orient, l.bounds.y0, l.bounds.y1))) =
      some (1, [(.right, 24, 49), (.bottomRight, 217, 306), (.bottomRight, 100, 205)]) := by
    decide +kernel
  obtain ⟨scene, h, hscene⟩ := exists_ok_of_map_eq_some hcomputed
  obtain ⟨hshared, hbounds⟩ := Prod.mk.inj hscene
  obtain ⟨hsizes, hspaced⟩ := legends_spaced h
  exact ⟨scene, h, hshared, hbounds, hsizes, hspaced⟩

end ChartSpec

end Charting
