import Charting.Proofs.Scene.Facet
import Charting.Proofs.Scene.Grid
import Charting.Proofs.Scene.Hoisting

/-!
# Guides stand where the cells are

An axis that takes any room is drawn at the cells that it is about: a shared vertical axis left of
the first cell of each row, a shared horizontal axis below the last cell of each column, and any
other axis at its own cell.  Headers have the extent of their column or row.  All this is read off
lists of rectangles in which the cells are found row by row (`Scene.IsPlaced`).  So the ticks of an
axis are where rows with their values are drawn, in every cell (`ChartSpec.compile_placement`).
-/

namespace Charting

variable {R : Type}

/-- The cell in a column and a row of a grid with so many columns. -/
def Scene.cellAt? (scene : Scene R) (columns c r : Nat) : Option (SceneCell R) :=
  scene.cells[r * columns + c]?

theorem FacetAxis.size_pos (a : FacetAxis R) : 0 < a.size :=
  Nat.lt_of_lt_of_le Nat.one_pos (Nat.le_max_right _ _)

/-- Headers with room have the texts, and the rectangles in order. -/
theorem SharedPlots.placeHeaders_of_room {texts : List String} {rects : List (Rect R)} {n : Nat}
    {f : Nat → Rect R} (hrects : texts ≠ [] → rects = (List.range n).map f)
    (hlength : texts.length ≤ n) :
    (SharedPlots.placeHeaders texts rects).map (·.text) = texts ∧
      ∀ i header, (SharedPlots.placeHeaders texts rects)[i]? = some header →
        i < n ∧ header.bounds = f i := by
  by_cases htexts : texts = []
  · subst htexts
    exact ⟨rfl, by rintro i header ⟨⟩⟩
  · rw [hrects htexts, placeHeaders]
    constructor
    · have hfst : texts.length ≤ ((List.range n).map f).length := by simpa using hlength
      rw [List.map_map]
      exact List.map_fst_zip hfst
    · intro i header hi
      rw [List.getElem?_map] at hi
      obtain ⟨⟨text, b⟩, hzip, rfl⟩ := Option.map_eq_some_iff.mp hi
      obtain ⟨-, hb⟩ := List.getElem?_zip_eq_some.mp hzip
      rw [List.getElem?_map] at hb
      obtain ⟨j, hj, rfl⟩ := Option.map_eq_some_iff.mp hb
      rw [List.getElem?_eq_some_iff] at hj
      obtain ⟨hlt, rfl⟩ := hj
      rw [List.length_range] at hlt
      rw [List.getElem_range]
      exact ⟨hlt, rfl⟩

variable [Scalar R]

/-! ## What it means to be in place -/

namespace Scene

variable (config : Config R) (measurer : TextMeasurer R) (grid : FacetGrid R)

/-- Cells, axes and headers are where they belong. -/
structure IsPlaced (scene : Scene R) : Prop where
  /-- There is a cell in each column of each row. -/
  length_cells : scene.cells.length = grid.rows.size * grid.columns.size
  /-- The cells are listed row by row. -/
  cells : ∀ c < grid.columns.size, ∀ r < grid.rows.size, ∃ facet cell,
    grid.cells[r * grid.columns.size + c]? = some facet ∧ facet.columnIndex = c ∧
      facet.rowIndex = r ∧ scene.cellAt? grid.columns.size c r = some cell ∧
      cell.column = grid.columns.values[c]? ∧ cell.row = grid.rows.values[r]?
  /-- Axes are horizontal or vertical. -/
  channels : ∀ a ∈ scene.allAxes, a.channel = .x ∨ a.channel = .y
  /-- A vertical axis that is shared stands left of each row. -/
  shared_y : ∀ a ∈ scene.axes, a.channel = .y → 0.0 < a.measure config.axis measurer →
    a.placements.length = grid.rows.size ∧
      ∀ c < grid.columns.size, ∀ r < grid.rows.size, ∃ b cell first, a.placements[r]? = some b ∧
        scene.cellAt? grid.columns.size c r = some cell ∧
        scene.cellAt? grid.columns.size 0 r = some first ∧
        b.y0 = cell.bounds.y0 ∧ b.y1 = cell.bounds.y1 ∧ b.x1 = first.bounds.x0
  /-- A horizontal axis that is shared stands below each column. -/
  shared_x : ∀ a ∈ scene.axes, a.channel = .x → 0.0 < a.measure config.axis measurer →
    a.placements.length = grid.columns.size ∧
      ∀ c < grid.columns.size, ∀ r < grid.rows.size, ∃ b cell last, a.placements[c]? = some b ∧
        scene.cellAt? grid.columns.size c r = some cell ∧
        scene.cellAt? grid.columns.size c (grid.rows.size - 1) = some last ∧
        b.x0 = cell.bounds.x0 ∧ b.x1 = cell.bounds.x1 ∧ b.y0 = last.bounds.y1
  /-- An axis that is not shared stands at its cell. -/
  own : ∀ cell ∈ scene.cells, ∀ a ∈ cell.axes, 0.0 < a.measure config.axis measurer →
    (a.channel = .y → ∃ b, a.placements = [b] ∧
      b.y0 = cell.bounds.y0 ∧ b.y1 = cell.bounds.y1 ∧ b.x1 = cell.bounds.x0) ∧
    (a.channel = .x → ∃ b, a.placements = [b] ∧
      b.x0 = cell.bounds.x0 ∧ b.x1 = cell.bounds.x1 ∧ b.y0 = cell.bounds.y1)
  /-- Headers of columns and of rows have the texts and the extents of these. -/
  headers : ∃ columnHeaders rowHeaders, scene.headers = columnHeaders ++ rowHeaders ∧
    columnHeaders.map (·.text) = grid.columns.values.map Value.text ∧
    rowHeaders.map (·.text) = grid.rows.values.map Value.text ∧
    (∀ c header, columnHeaders[c]? = some header → ∀ r < grid.rows.size, ∃ cell,
      scene.cellAt? grid.columns.size c r = some cell ∧
        header.bounds.x0 = cell.bounds.x0 ∧ header.bounds.x1 = cell.bounds.x1) ∧
    ∀ r header, rowHeaders[r]? = some header → ∀ c < grid.columns.size, ∃ cell,
      scene.cellAt? grid.columns.size c r = some cell ∧
        header.bounds.y0 = cell.bounds.y0 ∧ header.bounds.y1 = cell.bounds.y1

end Scene

/-! ## Room for axes and headers -/

section Room

variable [LawfulScalar R]

/-- A size is not lost. -/
theorem zero_lt_nonneg {x : R} (h : 0.0 < x) : 0.0 < nonneg x :=
  Scalar.lt_of_lt_of_le h (Scalar.le_max_left (Scalar.isNaN_of_lt h))

theorem AxisStrip.zero_lt_room {strip : AxisStrip R} (h : 0.0 < strip.thickness) {atEdge : Bool}
    (hdrawn : (strip.perCell || atEdge) = true) : 0.0 < AxisStrip.room (some strip) atEdge := by
  rw [room, if_pos hdrawn]
  exact zero_lt_nonneg h

theorem zero_lt_add_padding {x : R} (h : 0.0 ≤ x) : 0.0 < x + 2.0 * headerPadding :=
  LawfulScalar.add_pos h LawfulScalar.two_mul_four_pos

theorem TextMeasurer.zero_le_maxHeight (m : TextMeasurer R) (texts : List String) (fontSize : R) :
    0.0 ≤ m.maxHeight texts fontSize := by
  rw [maxHeight, ← List.foldl_map (f := fun s ↦ (m.measure s fontSize).height) (g := Scalar.max)]
  exact Scalar.le_foldl_max List.mem_cons_self LawfulScalar.isNaN_zero

theorem TextMeasurer.zero_le_maxWidth (m : TextMeasurer R) (texts : List String) (fontSize : R) :
    0.0 ≤ m.maxWidth texts fontSize := by
  rw [maxWidth, ← List.foldl_map (f := fun s ↦ (m.measure s fontSize).width) (g := Scalar.max)]
  exact Scalar.le_foldl_max List.mem_cons_self LawfulScalar.isNaN_zero

end Room

namespace LayoutSpec

variable (spec : LayoutSpec R) (c r : Nat)

/-- The place of a vertical axis left of a cell. -/
def leftOf : Rect R :=
  let cell := spec.cellRect c r
  ⟨cell.x0 - spec.leftStrip c, cell.y0, cell.x0, cell.y1⟩

/-- The place of a horizontal axis below a cell. -/
def belowOf : Rect R :=
  let cell := spec.cellRect c r
  ⟨cell.x0, cell.y1, cell.x1, cell.y1 + spec.bottomStrip r⟩

end LayoutSpec

namespace SharedPlots

/-! ## Placing axes -/

section Layout

variable {spec : LayoutSpec R} {columns rows : Nat} (hcolumns : spec.columnCount = columns)
  (hrows : spec.rowCount = rows) {c r : Nat}

include hcolumns hrows

theorem bounds_placeCell (hc : c < columns) (hr : r < rows) (q : CellPlot R)
    (axes : List (Axis R)) (legends : List (Legend R)) :
    (placeCell spec.arrange (r * columns + c) q axes legends).bounds = spec.cellRect c r :=
  congrArg (Option.getD · default) (LayoutSpec.getElem?_perCell hcolumns hrows hc hr)

theorem join_axisLeft (hc : c < columns) (hr : r < rows) (hroom : 0.0 < spec.leftStrip c) :
    (spec.arrange.axisLeft[r * columns + c]?).join = some (spec.leftOf c r) :=
  (congrArg Option.join (LayoutSpec.getElem?_perCell hcolumns hrows hc hr)).trans (if_pos hroom)

theorem join_axisBottom (hc : c < columns) (hr : r < rows)
    (hroom : 0.0 < spec.bottomStrip r) :
    (spec.arrange.axisBottom[r * columns + c]?).join = some (spec.belowOf c r) :=
  (congrArg Option.join (LayoutSpec.getElem?_perCell hcolumns hrows hc hr)).trans (if_pos hroom)

end Layout

section Shared

variable {s : SharedPlots R} {spec : LayoutSpec R} (hcolumns : spec.columnCount = s.columns)
  (hrows : spec.rowCount = s.rows)

include hcolumns hrows

/-- A shared vertical axis is drawn left of each row. -/
theorem sharedPlacements_y (hpos : 0 < s.columns) (hroom : 0.0 < spec.leftStrip 0) :
    s.sharedPlacements spec.arrange .y = (List.range s.rows).map fun r ↦ spec.leftOf 0 r := by
  rw [sharedPlacements, if_pos rfl, ← List.filterMap_eq_map]
  refine List.filterMap_congr fun r hr ↦ ?_
  exact join_axisLeft hcolumns hrows hpos (List.mem_range.mp hr) hroom

/-- A shared horizontal axis is drawn below each column. -/
theorem sharedPlacements_x (hpos : 0 < s.rows) (hroom : 0.0 < spec.bottomStrip (s.rows - 1)) :
    s.sharedPlacements spec.arrange .x =
      (List.range s.columns).map fun c ↦ spec.belowOf c (s.rows - 1) := by
  rw [sharedPlacements, if_neg (by decide), ← List.filterMap_eq_map]
  refine List.filterMap_congr fun c hc ↦ ?_
  exact join_axisBottom hcolumns hrows (List.mem_range.mp hc) (Nat.sub_one_lt hpos.ne') hroom

end Shared

/-! ## Strips -/

variable {s : SharedPlots R} {size : Size R} {config : Config R} {m : TextMeasurer R}

section Strips

variable [LawfulScalar R] {a : Axis R}

/-- The strip for the axes of a channel has room for each of them. -/
theorem exists_strip? {c : Channel} (ha : a ∈ s.shared.axes ++ s.own.flatMap (·.axes))
    (hc : a.channel = c) (hroom : 0.0 < a.measure config.axis m) :
    ∃ strip, s.strip? c config m = some strip ∧ 0.0 < strip.thickness ∧
      strip.perCell = !s.shared.axes.any (·.channel == c) := by
  have hmem : a.measure config.axis m ∈
      ((s.shared.axes ++ s.own.flatMap (·.axes)).filter (·.channel == c)).map
        (·.measure config.axis m) :=
    List.mem_map_of_mem (List.mem_filter.mpr ⟨ha, beq_iff_eq.mpr hc⟩)
  rw [strip?]
  generalize ((s.shared.axes ++ s.own.flatMap (·.axes)).filter (·.channel == c)).map
    (·.measure config.axis m) = sizes at hmem
  cases sizes with
  | nil => cases hmem
  | cons first rest => exact ⟨_, rfl, Scalar.zero_lt_foldl_max ⟨_, hmem, hroom⟩, rfl⟩

/-- There is room for a vertical axis left of the first column, and left of every column if it is
not shared. -/
theorem zero_lt_leftStrip (ha : a ∈ s.shared.axes ++ s.own.flatMap (·.axes))
    (hc : a.channel = .y) (hroom : 0.0 < a.measure config.axis m) {c : Nat}
    (hdrawn : c = 0 ∨ s.shared.axes.any (·.channel == .y) = false) :
    0.0 < (s.layoutSpec size config m).leftStrip c := by
  obtain ⟨strip, hstrip, hthick, hperCell⟩ := exists_strip? ha hc hroom
  change 0.0 < AxisStrip.room (s.strip? .y config m) (c == 0)
  rw [hstrip]
  refine AxisStrip.zero_lt_room hthick ?_
  rcases hdrawn with rfl | hnone
  · exact Bool.or_true _
  · rw [hperCell, hnone]
    rfl

/-- There is room for a horizontal axis below the last row, and below every row if it is not
shared. -/
theorem zero_lt_bottomStrip (ha : a ∈ s.shared.axes ++ s.own.flatMap (·.axes))
    (hc : a.channel = .x) (hroom : 0.0 < a.measure config.axis m) {r : Nat}
    (hdrawn : r + 1 = max s.rows 1 ∨ s.shared.axes.any (·.channel == .x) = false) :
    0.0 < (s.layoutSpec size config m).bottomStrip r := by
  obtain ⟨strip, hstrip, hthick, hperCell⟩ := exists_strip? ha hc hroom
  change 0.0 < AxisStrip.room (s.strip? .x config m) (r + 1 == max s.rows 1)
  rw [hstrip]
  refine AxisStrip.zero_lt_room hthick ?_
  rcases hdrawn with hlast | hnone
  · rw [hlast, beq_self_eq_true]
    exact Bool.or_true _
  · rw [hperCell, hnone]
    rfl

end Strips

/-! ## Headers -/

section Headers

variable [LawfulScalar R]

theorem zero_lt_columnHeader (h : s.columnTexts ≠ []) : 0.0 < nonneg (s.columnHeader config m) := by
  rw [columnHeader, if_neg (by simpa using h)]
  exact zero_lt_nonneg (zero_lt_add_padding (m.zero_le_maxHeight _ _))

theorem zero_lt_rowHeader (h : s.rowTexts ≠ []) : 0.0 < nonneg (s.rowHeader config m) := by
  rw [rowHeader, if_neg (by simpa using h)]
  exact zero_lt_nonneg (zero_lt_add_padding (m.zero_le_maxWidth _ _))

end Headers

/-! ## Scenes of grids -/

theorem columnCount_layoutSpec (grid : FacetGrid R) (plots : List (CellPlot R)) :
    ((ofPlots grid plots).layoutSpec size config m).columnCount = grid.columns.size :=
  Nat.max_eq_left grid.columns.size_pos

theorem rowCount_layoutSpec (grid : FacetGrid R) (plots : List (CellPlot R)) :
    ((ofPlots grid plots).layoutSpec size config m).rowCount = grid.rows.size :=
  Nat.max_eq_left grid.rows.size_pos

section Grid

variable {grid : FacetGrid R} {plots : List (CellPlot R)} {rows : List (Row R)}
  (hcells : plots.map (·.cell) = (List.range grid.rows.size).flatMap fun r ↦
    (List.range grid.columns.size).map fun c ↦ grid.cellAt rows c r)
  {spec : LayoutSpec R} (hcolumns : spec.columnCount = grid.columns.size)
  (hrows : spec.rowCount = grid.rows.size)

include hcells

theorem length_plots : plots.length = grid.rows.size * grid.columns.size := by
  rw [← List.length_map, hcells]
  exact length_rowByRow _ _ _

include hcolumns hrows

/-- The cell of a scene in a column and a row. -/
theorem exists_cellAt? {c r : Nat} (hc : c < grid.columns.size) (hr : r < grid.rows.size) :
    ∃ cell, ((ofPlots grid plots).place spec.arrange).cellAt? grid.columns.size c r = some cell ∧
      cell.bounds = spec.cellRect c r ∧ cell.column = grid.columns.values[c]? ∧
      cell.row = grid.rows.values[r]? := by
  have hplot : (plots.map (·.cell))[r * grid.columns.size + c]? = some (grid.cellAt rows c r) := by
    rw [hcells]
    exact getElem?_rowByRow _ _ _ hc hr
  rw [List.getElem?_map] at hplot
  obtain ⟨q, hq, hcell⟩ := Option.map_eq_some_iff.mp hplot
  obtain ⟨rects, hplace⟩ := getElem?_cells_ofPlots grid spec.arrange hq
  refine ⟨_, hplace, bounds_placeCell hcolumns hrows hc hr _ _ _, ?_, ?_⟩
  · exact congrArg FacetCell.column hcell
  · exact congrArg FacetCell.row hcell

/-- The cells of a scene are the cells of its columns and rows. -/
theorem exists_of_mem_cells {cell : SceneCell R}
    (h : cell ∈ ((ofPlots grid plots).place spec.arrange).cells) :
    ∃ c < grid.columns.size, ∃ r < grid.rows.size, ∃ q ∈ plots, cell.bounds = spec.cellRect c r ∧
      cell.axes = ((ofPlots grid plots).keptBy q).axes.map fun a ↦ { a with
        placements := ownPlacement spec.arrange (r * grid.columns.size + c) a.channel } := by
  obtain ⟨i, hi, rfl⟩ := List.mem_iff_getElem.mp h
  have hlt : i < plots.length := by
    rw [← length_cells_ofPlots grid spec.arrange]
    exact hi
  obtain ⟨rects, hplace⟩ :=
    getElem?_cells_ofPlots grid spec.arrange (List.getElem?_eq_getElem hlt)
  rw [List.getElem?_eq_getElem hi] at hplace
  obtain ⟨c, hc, r, hr, rfl⟩ := exists_rowByRow_index _ _ (length_plots hcells ▸ hlt)
  refine ⟨c, hc, r, hr, _, List.getElem_mem hlt, ?_, ?_⟩
  · rw [Option.some.inj hplace]
    exact bounds_placeCell hcolumns hrows hc hr _ _ _
  · rw [Option.some.inj hplace]
    rfl

end Grid

section IsPlaced

variable [LawfulScalar R] {grid : FacetGrid R} {plots : List (CellPlot R)} {rows : List (Row R)}
  (hcells : plots.map (·.cell) = (List.range grid.rows.size).flatMap fun r ↦
    (List.range grid.columns.size).map fun c ↦ grid.cellAt rows c r)

/-- The axes of a scene are horizontal or vertical. -/
theorem channel_of_mem_allAxes (hdistinct : ∀ q ∈ plots, ∀ g ∈ q.guides, g.Distinct)
    {layout : Layout R} {a : Axis R} (ha : a ∈ ((ofPlots grid plots).place layout).allAxes) :
    a.channel = .x ∨ a.channel = .y := by
  rw [Scene.allAxes, List.flatMap_def] at ha
  obtain ⟨gs, hgs, b, hb, hbare⟩ := (isHoisted_axes grid hdistinct layout).exists_generated ha
  obtain ⟨q, hq, hqs⟩ := List.mem_map.mp hgs
  obtain ⟨g, hg, rfl⟩ := Option.map_eq_some_iff.mp hqs
  have hchannel : a.channel = b.channel := by rw [← a.channel_bare, hbare, b.channel_bare]
  rw [hchannel]
  simpa [axisChannels] using (hdistinct q hq g hg).channels b hb

include hcells

/-- Shared vertical axes are in place. -/
theorem shared_y_ofPlots {a : Axis R} (ha : a ∈ (ofPlots grid plots).shared.axes)
    (hy : a.channel = .y) (hroom : 0.0 < a.measure config.axis m) :
    let s := ofPlots grid plots
    let spec := s.layoutSpec size config m
    let placements := s.sharedPlacements spec.arrange a.channel
    placements.length = grid.rows.size ∧
      ∀ c < grid.columns.size, ∀ r < grid.rows.size, ∃ b cell first, placements[r]? = some b ∧
        (s.place spec.arrange).cellAt? grid.columns.size c r = some cell ∧
        (s.place spec.arrange).cellAt? grid.columns.size 0 r = some first ∧
        b.y0 = cell.bounds.y0 ∧ b.y1 = cell.bounds.y1 ∧ b.x1 = first.bounds.x0 := by
  intro s spec placements
  have hcolumns : spec.columnCount = grid.columns.size := columnCount_layoutSpec grid plots
  have hrows : spec.rowCount = grid.rows.size := rowCount_layoutSpec grid plots
  have hstrip : 0.0 < spec.leftStrip 0 :=
    zero_lt_leftStrip (List.mem_append_left _ ha) hy hroom (.inl rfl)
  have hplacements : placements = (List.range grid.rows.size).map fun r ↦ spec.leftOf 0 r := by
    simp only [placements, hy]
    exact sharedPlacements_y hcolumns hrows grid.columns.size_pos hstrip
  rw [hplacements]
  refine ⟨by simp, fun c hc r hr ↦ ?_⟩
  obtain ⟨cell, hcell, hbounds, -⟩ := exists_cellAt? hcells hcolumns hrows hc hr
  obtain ⟨first, hfirst, hbounds', -⟩ :=
    exists_cellAt? hcells hcolumns hrows grid.columns.size_pos hr
  refine ⟨spec.leftOf 0 r, cell, first, ?_, hcell, hfirst, ?_⟩
  · rw [List.getElem?_map, List.getElem?_range hr]
    rfl
  · rw [hbounds, hbounds']
    exact ⟨rfl, rfl, rfl⟩

/-- Shared horizontal axes are in place. -/
theorem shared_x_ofPlots {a : Axis R} (ha : a ∈ (ofPlots grid plots).shared.axes)
    (hx : a.channel = .x) (hroom : 0.0 < a.measure config.axis m) :
    let s := ofPlots grid plots
    let spec := s.layoutSpec size config m
    let placements := s.sharedPlacements spec.arrange a.channel
    placements.length = grid.columns.size ∧
      ∀ c < grid.columns.size, ∀ r < grid.rows.size, ∃ b cell last, placements[c]? = some b ∧
        (s.place spec.arrange).cellAt? grid.columns.size c r = some cell ∧
        (s.place spec.arrange).cellAt? grid.columns.size c (grid.rows.size - 1) = some last ∧
        b.x0 = cell.bounds.x0 ∧ b.x1 = cell.bounds.x1 ∧ b.y0 = last.bounds.y1 := by
  intro s spec placements
  have hcolumns : spec.columnCount = grid.columns.size := columnCount_layoutSpec grid plots
  have hrows : spec.rowCount = grid.rows.size := rowCount_layoutSpec grid plots
  have hlast : grid.rows.size - 1 + 1 = grid.rows.size := Nat.sub_add_cancel grid.rows.size_pos
  have hstrip : 0.0 < spec.bottomStrip (grid.rows.size - 1) :=
    zero_lt_bottomStrip (List.mem_append_left _ ha) hx hroom (.inl (hlast.trans hrows.symm))
  have hplacements : placements = (List.range grid.columns.size).map fun c ↦
      spec.belowOf c (grid.rows.size - 1) := by
    simp only [placements, hx]
    exact sharedPlacements_x hcolumns hrows grid.rows.size_pos hstrip
  rw [hplacements]
  refine ⟨by simp, fun c hc r hr ↦ ?_⟩
  obtain ⟨cell, hcell, hbounds, -⟩ := exists_cellAt? hcells hcolumns hrows hc hr
  obtain ⟨last, hlast', hbounds', -⟩ :=
    exists_cellAt? hcells hcolumns hrows hc (Nat.sub_one_lt grid.rows.size_pos.ne')
  refine ⟨spec.belowOf c (grid.rows.size - 1), cell, last, ?_, hcell, hlast', ?_⟩
  · rw [List.getElem?_map, List.getElem?_range hc]
    rfl
  · rw [hbounds, hbounds']
    exact ⟨rfl, rfl, rfl⟩

/-- The headers of columns are in place. -/
theorem columnHeaders_ofPlots :
    let s := ofPlots grid plots
    let spec := s.layoutSpec size config m
    let headers := placeHeaders s.columnTexts spec.arrange.columnHeaders
    headers.map (·.text) = grid.columns.values.map Value.text ∧
      ∀ c header, headers[c]? = some header → ∀ r < grid.rows.size, ∃ cell,
        (s.place spec.arrange).cellAt? grid.columns.size c r = some cell ∧
          header.bounds.x0 = cell.bounds.x0 ∧ header.bounds.x1 = cell.bounds.x1 := by
  intro s spec headers
  have hcolumns : spec.columnCount = grid.columns.size := columnCount_layoutSpec grid plots
  have hrows : spec.rowCount = grid.rows.size := rowCount_layoutSpec grid plots
  have hlength : s.columnTexts.length ≤ grid.columns.size :=
    (List.length_map _).trans_le (Nat.le_max_left _ _)
  have hrects : s.columnTexts ≠ [] → spec.arrange.columnHeaders =
      (List.range grid.columns.size).map fun c ↦ ⟨spec.columnStart c,
        spec.plot.y0 - nonneg spec.columnHeader, spec.columnStart c + spec.cellWidth,
        spec.plot.y0⟩ := by
    intro htexts
    rw [← hcolumns]
    exact if_pos (zero_lt_columnHeader htexts)
  obtain ⟨htexts, hbounds⟩ := placeHeaders_of_room hrects hlength
  refine ⟨htexts, fun c header hheader r hr ↦ ?_⟩
  obtain ⟨hc, hheaderBounds⟩ := hbounds c header hheader
  obtain ⟨cell, hcell, hcellBounds, -⟩ := exists_cellAt? hcells hcolumns hrows hc hr
  refine ⟨cell, hcell, ?_⟩
  rw [hheaderBounds, hcellBounds]
  exact ⟨rfl, rfl⟩

/-- The headers of rows are in place. -/
theorem rowHeaders_ofPlots :
    let s := ofPlots grid plots
    let spec := s.layoutSpec size config m
    let headers := placeHeaders s.rowTexts spec.arrange.rowHeaders
    headers.map (·.text) = grid.rows.values.map Value.text ∧
      ∀ r header, headers[r]? = some header → ∀ c < grid.columns.size, ∃ cell,
        (s.place spec.arrange).cellAt? grid.columns.size c r = some cell ∧
          header.bounds.y0 = cell.bounds.y0 ∧ header.bounds.y1 = cell.bounds.y1 := by
  intro s spec headers
  have hcolumns : spec.columnCount = grid.columns.size := columnCount_layoutSpec grid plots
  have hrows : spec.rowCount = grid.rows.size := rowCount_layoutSpec grid plots
  have hlength : s.rowTexts.length ≤ grid.rows.size :=
    (List.length_map _).trans_le (Nat.le_max_left _ _)
  have hrects : s.rowTexts ≠ [] → spec.arrange.rowHeaders =
      (List.range grid.rows.size).map fun r ↦ ⟨spec.marginLeft, spec.rowStart r,
        spec.marginLeft + nonneg spec.rowHeader, spec.rowStart r + spec.cellHeight⟩ := by
    intro htexts
    rw [← hrows]
    exact if_pos (zero_lt_rowHeader htexts)
  obtain ⟨htexts, hbounds⟩ := placeHeaders_of_room hrects hlength
  refine ⟨htexts, fun r header hheader c hc ↦ ?_⟩
  obtain ⟨hr, hheaderBounds⟩ := hbounds r header hheader
  obtain ⟨cell, hcell, hcellBounds, -⟩ := exists_cellAt? hcells hcolumns hrows hc hr
  refine ⟨cell, hcell, ?_⟩
  rw [hheaderBounds, hcellBounds]
  exact ⟨rfl, rfl⟩

/-- The axes that cells keep are in place. -/
theorem own_ofPlots {cell : SceneCell R} :
    let s := ofPlots grid plots
    let spec := s.layoutSpec size config m
    cell ∈ (s.place spec.arrange).cells → ∀ a ∈ cell.axes, 0.0 < a.measure config.axis m →
      (a.channel = .y → ∃ b, a.placements = [b] ∧
        b.y0 = cell.bounds.y0 ∧ b.y1 = cell.bounds.y1 ∧ b.x1 = cell.bounds.x0) ∧
      (a.channel = .x → ∃ b, a.placements = [b] ∧
        b.x0 = cell.bounds.x0 ∧ b.x1 = cell.bounds.x1 ∧ b.y0 = cell.bounds.y1) := by
  intro s spec hcell a ha hroom
  have hcolumns : spec.columnCount = grid.columns.size := columnCount_layoutSpec grid plots
  have hrows : spec.rowCount = grid.rows.size := rowCount_layoutSpec grid plots
  obtain ⟨c, hc, r, hr, q, hq, hbounds, haxes⟩ := exists_of_mem_cells hcells hcolumns hrows hcell
  rw [haxes] at ha
  obtain ⟨a, ha', rfl⟩ := List.mem_map.mp ha
  have hmem : a ∈ s.shared.axes ++ s.own.flatMap (·.axes) :=
    List.mem_append_right _ (List.mem_flatMap.mpr ⟨_, List.mem_map_of_mem hq, ha'⟩)
  have hnone : s.shared.axes.any (·.channel == a.channel) = false :=
    by simpa using (List.mem_filter.mp ha').2
  rw [hbounds]
  constructor
  · intro hy
    have hstrip : 0.0 < spec.leftStrip c := zero_lt_leftStrip hmem hy hroom (.inr (hy ▸ hnone))
    refine ⟨spec.leftOf c r, ?_, rfl, rfl, rfl⟩
    change ownPlacement _ _ a.channel = _
    rw [ownPlacement, if_pos hy, join_axisLeft hcolumns hrows hc hr hstrip]
    rfl
  · intro hx
    have hstrip : 0.0 < spec.bottomStrip r := zero_lt_bottomStrip hmem hx hroom (.inr (hx ▸ hnone))
    have hny : a.channel ≠ .y := by
      rw [hx]
      decide
    refine ⟨spec.belowOf c r, ?_, rfl, rfl, rfl⟩
    change ownPlacement _ _ a.channel = _
    rw [ownPlacement, if_neg hny, join_axisBottom hcolumns hrows hc hr hstrip]
    rfl

/-- Everything in the scene of a grid is in place. -/
theorem isPlaced_ofPlots (hgrid : plots.map (·.cell) = grid.cells)
    (hdistinct : ∀ q ∈ plots, ∀ g ∈ q.guides, g.Distinct) :
    ((ofPlots grid plots).place ((ofPlots grid plots).layoutSpec size config m).arrange).IsPlaced
      config m grid where
  length_cells := (length_cells_ofPlots grid _).trans (length_plots hcells)
  cells c hc r hr := by
    obtain ⟨cell, hcell, -, hcolumn, hrow⟩ := exists_cellAt? hcells
      (columnCount_layoutSpec grid plots) (rowCount_layoutSpec grid plots) hc hr
    have hfacet : grid.cells[r * grid.columns.size + c]? = some (grid.cellAt rows c r) := by
      rw [← hgrid, hcells]
      exact getElem?_rowByRow _ _ _ hc hr
    exact ⟨_, cell, hfacet, rfl, rfl, hcell, hcolumn, hrow⟩
  channels a ha := channel_of_mem_allAxes hdistinct ha
  shared_y a ha hy hroom := by
    obtain ⟨a, ha', rfl⟩ := List.mem_map.mp ha
    exact shared_y_ofPlots hcells ha' hy hroom
  shared_x a ha hx hroom := by
    obtain ⟨a, ha', rfl⟩ := List.mem_map.mp ha
    exact shared_x_ofPlots hcells ha' hx hroom
  own cell hcell a ha hroom := own_ofPlots hcells hcell a ha hroom
  headers := by
    obtain ⟨hcolumnTexts, hcolumnBounds⟩ := columnHeaders_ofPlots hcells
    obtain ⟨hrowTexts, hrowBounds⟩ := rowHeaders_ofPlots hcells
    exact ⟨_, _, rfl, hcolumnTexts, hrowTexts, hcolumnBounds, hrowBounds⟩

end IsPlaced

end SharedPlots

end Charting
