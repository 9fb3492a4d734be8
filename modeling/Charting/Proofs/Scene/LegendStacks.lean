import Mathlib.Algebra.Order.BigOperators.Group.List
import Charting.Proofs.Scene.Tiling

/-!
# Legends and the edge of the scene

The margins of a scene have room for the deepest legend of each side, so that no legend stands out
across its side.  Along a side legends are stacked from the corner of the plot on, and there is no
room kept for that.  A legend is in the scene exactly if its stack does not get too long
(`LayoutSpec.legend_liesIn_view_iff`).
-/

namespace Charting

namespace LegendOrient

/-- Whether legends stand beside the plot and not in one of its corners. -/
def isSide : LegendOrient → Bool
  | left | right | top | bottom => true
  | topLeft | topRight | bottomLeft | bottomRight => false

variable {R : Type}

/-- The edge of a rectangle that legends are stacked away from. -/
def near (r : Rect R) : LegendOrient → R
  | .top | .bottom => r.x0
  | _ => r.y0

/-- The edge of a rectangle that legends are stacked towards. -/
def far (r : Rect R) : LegendOrient → R
  | .top | .bottom => r.x1
  | _ => r.y1

end LegendOrient

namespace LegendBox

/-! ## Stacks -/

section Stack

variable {R : Type} [Scalar R]

/-- The length of a legend in the direction in which it is stacked. -/
def extent (b : LegendBox R) : R :=
  match b.orient with
  | .top | .bottom => b.width
  | _ => b.height

variable (frame plot : Rect R) (gap : R)

/-- How far the stacks have come after one more legend. -/
def advance (taken : LegendOrient → Option R) (b : LegendBox R) : LegendOrient → Option R :=
  fun o ↦ if o = b.orient then some (b.next gap ((taken b.orient).getD (b.start plot))) else taken o

/-- A legend begins where its stack has come to with the legends before it. -/
theorem getElem?_stack (taken : LegendOrient → Option R) (before : List (LegendBox R))
    (b : LegendBox R) (after : List (LegendBox R)) :
    (stack frame plot gap taken (before ++ b :: after))[before.length]? =
      some (b.rect frame plot
        ((before.foldl (advance plot gap) taken b.orient).getD (b.start plot))) := by
  induction before generalizing taken with
  | nil => rfl
  | cons a before ih => exact ih (advance plot gap taken a)

end Stack

variable {plot : Rect Rat} {gap : Rat} {o : LegendOrient}

/-- The length of a stack: the legends of a side and a gap after each of them. -/
def stackLength (gap : Rat) (o : LegendOrient) (before : List (LegendBox Rat)) : Rat :=
  ((before.filter (·.orient == o)).map fun a ↦ a.extent + gap).sum

theorem extent_nonneg (b : LegendBox Rat) : 0 ≤ b.extent := by
  unfold extent
  split <;> exact nonneg_nonneg _

/-- At a side, legends begin at the near edge of the plot. -/
theorem start_eq_near {b : LegendBox Rat} (hb : b.orient.isSide = true) :
    b.start plot = b.orient.near plot := by
  unfold start
  cases horient : b.orient <;> rw [horient] at hb <;> first | rfl | cases hb

/-- At a side, legends follow one another with gaps between them. -/
theorem next_eq_add {b : LegendBox Rat} (hb : b.orient.isSide = true) (at₀ : Rat) :
    b.next gap at₀ = at₀ + (b.extent + gap) := by
  unfold next extent
  cases horient : b.orient <;> rw [horient] at hb <;> first | rfl | cases hb

/-- The stack of a side is as long as the legends of this side. -/
theorem getD_foldl_advance (ho : o.isSide = true) (before : List (LegendBox Rat))
    (taken : LegendOrient → Option Rat) :
    (before.foldl (advance plot gap) taken o).getD (o.near plot) =
      (taken o).getD (o.near plot) + stackLength gap o before := by
  induction before generalizing taken with
  | nil => exact (add_zero _).symm
  | cons a before ih =>
      rw [List.foldl_cons, ih, stackLength, stackLength, advance]
      by_cases ha : o = a.orient
      · subst ha
        simp [next_eq_add ho, start_eq_near ho, add_assoc]
      · simp [ha, Ne.symm ha]

/-- Stacks are not of negative length. -/
theorem stackLength_nonneg (hgap : 0 ≤ gap) (before : List (LegendBox Rat)) :
    0 ≤ stackLength gap o before := by
  refine List.sum_nonneg fun x hx ↦ ?_
  obtain ⟨a, -, rfl⟩ := List.mem_map.mp hx
  exact add_nonneg a.extent_nonneg hgap

/-! ## Rectangles -/

/-- At a side, a legend ends where its length says. -/
theorem far_rect {b : LegendBox Rat} (hb : b.orient.isSide = true) (frame : Rect Rat) (at₀ : Rat) :
    b.orient.far (b.rect frame plot at₀) = at₀ + b.extent := by
  unfold rect extent
  cases horient : b.orient <;> rw [horient] at hb <;> first | rfl | cases hb

end LegendBox

namespace LayoutSpec

variable {spec : LayoutSpec Rat} {b : LegendBox Rat}

/-- The margins have room for each legend. -/
theorem le_legendDepth (hb : b ∈ spec.legends) (extent : Size Rat → Rat) :
    nonneg (extent b.size) + b.distance ≤ spec.legendDepth b.orient extent := by
  refine Scalar.le_foldl_max (List.mem_cons_of_mem _ (List.mem_map.mpr ⟨b, ?_, rfl⟩)) rfl
  exact List.mem_filter.mpr ⟨hb, beq_self_eq_true _⟩

/-- Stacks do not begin outside the scene. -/
theorem near_plot_nonneg (o : LegendOrient) : 0 ≤ o.near spec.plot := by
  unfold LegendOrient.near
  rw [← Exact.zero_eq]
  split
  · exact spec.frame_liesIn_view.left.trans spec.plot_liesIn_frame.left
  · exact spec.frame_liesIn_view.left.trans spec.plot_liesIn_frame.left
  · exact spec.frame_liesIn_view.top.trans spec.plot_liesIn_frame.top

/-- A legend at a side is in the scene if its far end is. -/
theorem rect_liesIn_view (hmem : b ∈ spec.legends) (hb : b.orient.isSide = true) {at₀ : Rat}
    (hnear : 0 ≤ at₀) (hfar : at₀ + b.extent ≤ b.orient.far spec.arrange.view) :
    (b.rect spec.frame spec.plot at₀).LiesIn spec.arrange.view := by
  have hframe := spec.frame_liesIn_view
  have hwidth : 0 ≤ b.width := nonneg_nonneg _
  have hheight : 0 ≤ b.height := nonneg_nonneg _
  have hdistance : 0 ≤ b.distance := nonneg_nonneg _
  have hpadding := nonneg_nonneg spec.outerPadding
  have hacross : b.width + b.distance ≤ spec.legendDepth b.orient Size.width :=
    le_legendDepth hmem Size.width
  have hdown : b.height + b.distance ≤ spec.legendDepth b.orient Size.height :=
    le_legendDepth hmem Size.height
  have hview : spec.arrange.view = ⟨0, 0, spec.frame.x1 + spec.marginRight,
      spec.frame.y1 + spec.marginBottom⟩ := by rw [← Exact.zero_eq]; rfl
  rw [hview] at hframe hfar ⊢
  obtain ⟨hleft, htop, hright, hbottom, hx, hy⟩ := hframe
  unfold LegendBox.extent LegendOrient.far at hfar
  unfold LegendBox.rect
  cases horient : b.orient <;> rw [horient] at hb hfar hacross hdown <;> dsimp only at * <;>
    try cases hb
  case left =>
    have hroom : b.width + b.distance ≤ spec.frame.x0 :=
      hacross.trans (le_add_of_nonneg_left hpadding)
    constructor <;> dsimp only <;> linarith
  case right =>
    have hroom : b.width + b.distance ≤ spec.marginRight :=
      hacross.trans (le_add_of_nonneg_left hpadding)
    constructor <;> dsimp only <;> linarith
  case top =>
    have hroom : b.height + b.distance ≤ spec.frame.y0 :=
      hdown.trans (le_add_of_nonneg_left hpadding)
    constructor <;> dsimp only <;> linarith
  case bottom =>
    have hroom : b.height + b.distance ≤ spec.marginBottom :=
      hdown.trans (le_add_of_nonneg_left hpadding)
    constructor <;> dsimp only <;> linarith

/-- A legend at a side is in the scene exactly if the stack of legends that ends with it is not too
long for the scene. -/
theorem legend_liesIn_view_iff {before after : List (LegendBox Rat)}
    (h : spec.legends = before ++ b :: after) (hb : b.orient.isSide = true) :
    ∃ r, spec.arrange.legends[before.length]? = some r ∧
      b.orient.far r = b.orient.near spec.arrange.plot +
        LegendBox.stackLength (nonneg spec.legendSpacing) b.orient before + b.extent ∧
      (r.LiesIn spec.arrange.view ↔ b.orient.far r ≤ b.orient.far spec.arrange.view) := by
  have hstack := LegendBox.getElem?_stack spec.frame spec.plot (nonneg spec.legendSpacing)
    (fun _ ↦ none) before b after
  rw [LegendBox.start_eq_near hb, LegendBox.getD_foldl_advance hb, Option.getD_none, ← h] at hstack
  refine ⟨_, hstack, LegendBox.far_rect hb _ _, fun hin ↦ ?_, fun hfar ↦ ?_⟩
  · unfold LegendOrient.far
    split
    · exact hin.right
    · exact hin.right
    · exact hin.bottom
  · rw [LegendBox.far_rect hb] at hfar
    refine rect_liesIn_view ?_ hb ?_ hfar
    · rw [h]
      exact List.mem_append_right _ List.mem_cons_self
    · exact add_nonneg (near_plot_nonneg _) (LegendBox.stackLength_nonneg (nonneg_nonneg _) _)

/-- A cell with two legends to its right, which together are higher than the cell. -/
def twoLegends : LayoutSpec Rat where
  columns := 1
  rows := 1
  cellSize := ⟨100, 50⟩
  spacing := 0
  outerPadding := 0
  axisLeft := none
  axisBottom := none
  columnHeader := 0
  rowHeader := 0
  legends := [⟨⟨40, 20⟩, .right, 18⟩, ⟨⟨40, 30⟩, .right, 18⟩]
  legendSpacing := 10

/-- The second of two legends would be in the scene if the scene went down as far. -/
theorem legend_liesIn_view_iff_twoLegends :
    twoLegends.legends = [⟨⟨40, 20⟩, .right, 18⟩] ++ [⟨⟨40, 30⟩, .right, 18⟩] ∧
      LegendOrient.right.isSide = true ∧
      ∃ r, twoLegends.arrange.legends[1]? = some r ∧ r.y1 = 0 + (20 + 10) + 30 ∧
        (r.LiesIn twoLegends.arrange.view ↔ r.y1 ≤ 50) := by
  have hlegends : twoLegends.legends =
      [⟨⟨40, 20⟩, .right, 18⟩] ++ [⟨⟨40, 30⟩, .right, 18⟩] := rfl
  have hside : LegendOrient.right.isSide = true := rfl
  obtain ⟨r, hr, hend, hiff⟩ := legend_liesIn_view_iff hlegends hside
  refine ⟨hlegends, hside, r, hr, hend.trans ?_, hiff.trans ?_⟩
  · decide +kernel
  · have hview : LegendOrient.right.far twoLegends.arrange.view = 50 := by decide +kernel
    rw [hview]
    rfl

/-- Legends at a side are not always in the scene. -/
theorem not_forall_legend_liesIn_view :
    ¬∀ (spec : LayoutSpec Rat) (i : Nat) (b : LegendBox Rat) (r : Rect Rat),
      spec.legends[i]? = some b → b.orient ∈ [.left, .right, .top, .bottom] →
        spec.arrange.legends[i]? = some r → r.LiesIn spec.arrange.view := by
  intro h
  have hin : (⟨118, 30, 158, 60⟩ : Rect Rat).LiesIn twoLegends.arrange.view :=
    h twoLegends 1 ⟨⟨40, 30⟩, .right, 18⟩ _ rfl (by decide) (by decide +kernel)
  have hview : twoLegends.arrange.view.y1 = 50 := by decide +kernel
  have hbottom := hin.bottom
  rw [hview] at hbottom
  exact absurd hbottom (by decide +kernel)

end LayoutSpec

end Charting
