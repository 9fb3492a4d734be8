import Charting.Proofs.Scene.Plots

/-!
# Guides in their places

Placing gives rectangles to guides and changes nothing else of them.  The cell of a scene at a
position is made of what is plotted in the cell at this position
(`SharedPlots.getElem?_cells_ofPlots`).
-/

namespace Charting

variable {R : Type}

/-- An axis without its places. -/
def Axis.bare (a : Axis R) : Axis R := { a with placements := [] }

/-- The channel of an axis has nothing to do with its places. -/
theorem Axis.channel_bare (a : Axis R) : a.bare.channel = a.channel := rfl

variable [Scalar R]

/-- A legend without its place. -/
def Legend.bare (l : Legend R) : Legend R := { l with bounds := default }

namespace SharedPlots

variable {s : SharedPlots R} {i : Nat}

/-- Legends stay what they are when they get their rectangles. -/
theorem map_bare_placeLegends (legends : List (Legend R)) (rects : List (Rect R)) :
    (placeLegends legends rects).map Legend.bare = legends.map Legend.bare := by
  have hlegends : legends.zipIdx.map (·.1) = legends := List.zipIdx_map_fst 0 legends
  rw [placeLegends, List.map_map]
  conv => rhs; rw [← hlegends, List.map_map]
  rfl

/-- The legends of a cell get some of the rectangles. -/
theorem getElem?_placeCellLegends {own : List (Guides R)} (rects : List (Rect R)) {g : Guides R}
    (h : own[i]? = some g) :
    ∃ rects', (placeCellLegends own rects)[i]? = some (placeLegends g.legends rects') := by
  induction own generalizing rects i with
  | nil => cases h
  | cons g' own ih =>
      cases i with
      | zero =>
          obtain rfl : g' = g := Option.some.inj h
          exact ⟨rects, rfl⟩
      | succ i => exact ih _ h

/-- The cell of a scene at a position. -/
theorem getElem?_place (layout : Layout R) {plot : CellPlot R} {g : Guides R}
    (hplot : s.plots[i]? = some plot) (hown : s.own[i]? = some g) :
    ∃ rects, (s.place layout).cells[i]? =
      some (placeCell layout i plot g.axes (placeLegends g.legends rects)) := by
  obtain ⟨rects, hlegends⟩ :=
    getElem?_placeCellLegends (layout.legends.drop s.shared.legends.length) hown
  refine ⟨rects, ?_⟩
  have hzip : (s.plots.zip (s.own.zip
      (placeCellLegends s.own (layout.legends.drop s.shared.legends.length))))[i]? =
      some (plot, g, placeLegends g.legends rects) := by
    rw [List.getElem?_zip_eq_some, List.getElem?_zip_eq_some]
    exact ⟨hplot, hown, hlegends⟩
  rw [place, List.getElem?_map, List.getElem?_zipIdx, hzip]
  simp

/-- The guides that a cell keeps. -/
def keptBy (s : SharedPlots R) (q : CellPlot R) : Guides R :=
  (q.guides.getD .none).own s.shared.axes s.shared.legends

variable (grid : FacetGrid R) {plots : List (CellPlot R)} (layout : Layout R)

/-- A scene has the cells that are plotted. -/
theorem length_cells_ofPlots :
    ((ofPlots grid plots).place layout).cells.length = plots.length := by
  have hown : (ofPlots grid plots).own.length = (ofPlots grid plots).plots.length :=
    List.length_map _
  exact (forall₂_place hown layout).length_eq.symm

/-- A cell of a scene has the guides that it keeps. -/
theorem getElem?_cells_ofPlots {q : CellPlot R} (h : plots[i]? = some q) :
    ∃ rects, ((ofPlots grid plots).place layout).cells[i]? =
      some (placeCell layout i q ((ofPlots grid plots).keptBy q).axes
        (placeLegends ((ofPlots grid plots).keptBy q).legends rects)) := by
  have hown : (ofPlots grid plots).own[i]? = some ((ofPlots grid plots).keptBy q) := by
    change (plots.map _)[i]? = _
    rw [List.getElem?_map, h]
    rfl
  exact getElem?_place layout h hown

end SharedPlots

end Charting
