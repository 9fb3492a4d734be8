import Mathlib.Tactic.Linarith
import Charting.Proofs.Numeric.Laws
import Charting.Proofs.Scene.Grid

/-!
# Layouts do not overlap

Cells, axes and headers are put into lanes: from left to right the headers of rows, then in turns
the axes of a column and its cells, and from top to bottom the headers of columns, then in turns the
cells of a row and their axes.  The lanes of one direction follow one another (`Track`), and no two
parts are in the same lanes of both directions (`Part.ext_lanes`).  So no two parts overlap
(`Part.apart_rect`), all of them are between the first lanes and the last ones, and a layout is a
tiling (`LayoutSpec.isTiling_arrange`).
-/

namespace Charting

/-! ## Rectangles -/

namespace Rect

/-- A point is within a rectangle and not on its edge. -/
def Interior (r : Rect Rat) (p : Point Rat) : Prop :=
  r.x0 < p.x ∧ p.x < r.x1 ∧ r.y0 < p.y ∧ p.y < r.y1

/-- No point is within both rectangles. -/
def ApartFrom (r s : Rect Rat) : Prop := ∀ p, r.Interior p → ¬s.Interior p

/-- A rectangle, which is not turned inside out, is a part of another one. -/
structure LiesIn (r s : Rect Rat) : Prop where
  /-- The left edges. -/
  left : s.x0 ≤ r.x0
  /-- The upper edges. -/
  top : s.y0 ≤ r.y0
  /-- The right edges. -/
  right : r.x1 ≤ s.x1
  /-- The lower edges. -/
  bottom : r.y1 ≤ s.y1
  /-- The horizontal extent. -/
  x0_le_x1 : r.x0 ≤ r.x1
  /-- The vertical extent. -/
  y0_le_y1 : r.y0 ≤ r.y1

/-- Rectangles beside each other are apart. -/
theorem apartFrom_of_x {r s : Rect Rat} (h : r.x1 ≤ s.x0 ∨ s.x1 ≤ r.x0) : r.ApartFrom s := by
  rintro p ⟨hr0, hr1, -, -⟩ ⟨hs0, hs1, -, -⟩
  rcases h with h | h
  · exact (hr1.trans_le h).not_gt hs0
  · exact (hs1.trans_le h).not_gt hr0

/-- Rectangles below each other are apart. -/
theorem apartFrom_of_y {r s : Rect Rat} (h : r.y1 ≤ s.y0 ∨ s.y1 ≤ r.y0) : r.ApartFrom s := by
  rintro p ⟨-, -, hr0, hr1⟩ ⟨-, -, hs0, hs1⟩
  rcases h with h | h
  · exact (hr1.trans_le h).not_gt hs0
  · exact (hs1.trans_le h).not_gt hr0

end Rect

namespace Layout

/-- Everything that is beside the cells, and the cells. -/
def parts (l : Layout Rat) : List (Rect Rat) :=
  l.cells ++ l.axisLeft.filterMap id ++ l.axisBottom.filterMap id ++ l.columnHeaders ++ l.rowHeaders

/-- Cells in rows and columns, with axes and headers that do not overlap. -/
structure IsTiling (columns rows : Nat) (l : Layout Rat) : Prop where
  /-- There is a cell in each column of each row. -/
  length_cells : l.cells.length = rows * columns
  /-- The cells of a row are as high up as each other, and listed from left to right. -/
  beside : ∀ r < rows, ∀ c' < columns, ∀ c < c', ∃ a b, l.cells[r * columns + c]? = some a ∧
    l.cells[r * columns + c']? = some b ∧ a.y0 = b.y0 ∧ a.y1 = b.y1 ∧ a.x1 ≤ b.x0
  /-- The cells of a column are as far left as each other, and listed from top to bottom. -/
  below : ∀ c < columns, ∀ r' < rows, ∀ r < r', ∃ a b, l.cells[r * columns + c]? = some a ∧
    l.cells[r' * columns + c]? = some b ∧ a.x0 = b.x0 ∧ a.x1 = b.x1 ∧ a.y1 ≤ b.y0
  /-- No two parts overlap. -/
  apart : l.parts.Pairwise Rect.ApartFrom
  /-- All parts are in the frame. -/
  parts_liesIn_frame : ∀ r ∈ l.parts, r.LiesIn l.frame
  /-- The frame is in the scene. -/
  frame_liesIn_view : l.frame.LiesIn l.view
  /-- All cells are in the plot. -/
  cells_liesIn_plot : ∀ r ∈ l.cells, r.LiesIn l.plot
  /-- The plot is the least rectangle around the cells. -/
  plot_least : ∀ s, (∀ r ∈ l.cells, r.LiesIn s) → l.plot.LiesIn s

end Layout

/-! ## Lanes -/

/-- Lanes of one direction, one after another. -/
structure Track where
  /-- Where a lane begins. -/
  start : Nat → Rat
  /-- Where a lane ends. -/
  stop : Nat → Rat
  /-- A lane does not end before it begins. -/
  start_le_stop : ∀ i, start i ≤ stop i
  /-- A lane does not begin before the lane ahead of it ends. -/
  stop_le_start_succ : ∀ i, stop i ≤ start (i + 1)

namespace Track

variable (t : Track) {i j : Nat}

theorem stop_le_start (h : i < j) : t.stop i ≤ t.start j := by
  induction j, h using Nat.le_induction with
  | base => exact t.stop_le_start_succ i
  | succ j _ ih => exact ih.trans ((t.start_le_stop j).trans (t.stop_le_start_succ j))

theorem start_mono (h : i ≤ j) : t.start i ≤ t.start j := by
  rcases h.lt_or_eq with h | rfl
  · exact (t.start_le_stop i).trans (t.stop_le_start h)
  · exact le_rfl

theorem stop_mono (h : i ≤ j) : t.stop i ≤ t.stop j := by
  rcases h.lt_or_eq with h | rfl
  · exact (t.stop_le_start h).trans (t.start_le_stop j)
  · exact le_rfl

theorem apart (h : i ≠ j) : t.stop i ≤ t.start j ∨ t.stop j ≤ t.start i :=
  h.lt_or_gt.imp t.stop_le_start t.stop_le_start

end Track

/-- Something first, and then two things for each number in turns. -/
def alternate {α : Type} (head : α) (odd even : Nat → α) : Nat → α
  | 0 => head
  | n + 1 => if n % 2 = 0 then odd (n / 2) else even (n / 2)

section Alternate

variable {α : Type} {head : α} {odd even : Nat → α} (i : Nat)

/-- The thing at the first place. -/
@[simp] theorem alternate_zero : alternate head odd even 0 = head := rfl

@[simp] theorem alternate_odd : alternate head odd even (2 * i + 1) = odd i := by
  rw [alternate, if_pos (Nat.mul_mod_right 2 i), Nat.mul_div_cancel_left i two_pos]

@[simp] theorem alternate_even : alternate head odd even (2 * i + 2) = even i := by
  have hdiv : (2 * i + 1) / 2 = i := by omega
  rw [alternate, if_neg (by omega), hdiv]

/-- What holds at all places: at the first one, at odd ones and at even ones. -/
theorem forall_alternate {p : Nat → Prop} (head : p 0) (odd : ∀ i, p (2 * i + 1))
    (even : ∀ i, p (2 * i + 2)) (n : Nat) : p n := by
  obtain rfl | ⟨i, rfl | rfl⟩ : n = 0 ∨ ∃ i, n = 2 * i + 1 ∨ n = 2 * i + 2 := by
    rcases n with _ | n
    · exact .inl rfl
    · exact .inr ⟨n / 2, by omega⟩
  · exact head
  · exact odd i
  · exact even i

end Alternate

/-! ## Sizes -/

theorem nonneg_eq_max (x : Rat) : nonneg x = max x 0 := by
  rw [nonneg, Exact.max_eq, Exact.zero_eq]

theorem nonneg_nonneg (x : Rat) : 0 ≤ nonneg x := by
  rw [nonneg_eq_max]
  exact le_max_right x 0

/-- The thickness of a strip is not negative. -/
theorem AxisStrip.room_nonneg (strip : Option (AxisStrip Rat)) (atEdge : Bool) :
    0 ≤ AxisStrip.room strip atEdge := by
  unfold room
  split
  · split
    · exact nonneg_nonneg _
    · exact Exact.zero_eq.ge
  · exact Exact.zero_eq.ge

namespace LayoutSpec

variable (spec : LayoutSpec Rat)

theorem legendDepth_nonneg (orient : LegendOrient) (extent : Size Rat → Rat) :
    0 ≤ spec.legendDepth orient extent := by
  rw [← Exact.zero_eq]
  exact Scalar.le_foldl_max List.mem_cons_self rfl

/-- From left to right: the headers of rows, and in turns the axes and the cells of a column. -/
def columnTrack : Track where
  start := alternate spec.marginLeft (fun c ↦ spec.columnStart c - spec.leftStrip c)
    spec.columnStart
  stop := alternate (spec.marginLeft + nonneg spec.rowHeader) spec.columnStart
    fun c ↦ spec.columnStart c + spec.cellWidth
  start_le_stop := by
    refine forall_alternate ?head (fun c ↦ ?odd) fun c ↦ ?even
    case head => exact le_add_of_nonneg_right (nonneg_nonneg _)
    case odd =>
      rw [alternate_odd, alternate_odd]
      exact sub_le_self _ (AxisStrip.room_nonneg _ _)
    case even =>
      rw [alternate_even, alternate_even]
      exact le_add_of_nonneg_right (nonneg_nonneg _)
  stop_le_start_succ := by
    refine forall_alternate ?head (fun c ↦ ?odd) fun c ↦ ?even
    case head =>
      change spec.marginLeft + nonneg spec.rowHeader ≤ spec.columnStart 0 - spec.leftStrip 0
      rw [columnStart, add_sub_cancel_right]
    case odd => rw [alternate_odd, alternate_even]
    case even =>
      have hsucc : 2 * c + 2 + 1 = 2 * (c + 1) + 1 := rfl
      rw [alternate_even, hsucc, alternate_odd, columnStart, add_sub_cancel_right]
      exact le_add_of_nonneg_right (nonneg_nonneg _)

/-- From top to bottom: the headers of columns, and in turns the cells and the axes of a row. -/
def rowTrack : Track where
  start := alternate spec.marginTop spec.rowStart fun r ↦ spec.rowStart r + spec.cellHeight
  stop := alternate (spec.marginTop + nonneg spec.columnHeader)
    (fun r ↦ spec.rowStart r + spec.cellHeight)
    fun r ↦ spec.rowStart r + spec.cellHeight + spec.bottomStrip r
  start_le_stop := by
    refine forall_alternate ?head (fun r ↦ ?odd) fun r ↦ ?even
    case head => exact le_add_of_nonneg_right (nonneg_nonneg _)
    case odd =>
      rw [alternate_odd, alternate_odd]
      exact le_add_of_nonneg_right (nonneg_nonneg _)
    case even =>
      rw [alternate_even, alternate_even]
      exact le_add_of_nonneg_right (AxisStrip.room_nonneg _ _)
  stop_le_start_succ := by
    refine forall_alternate ?head (fun r ↦ ?odd) fun r ↦ ?even
    case head => exact le_refl (spec.rowStart 0)
    case odd => rw [alternate_odd, alternate_even]
    case even =>
      have hsucc : 2 * r + 2 + 1 = 2 * (r + 1) + 1 := rfl
      rw [alternate_even, hsucc, alternate_odd, rowStart, add_assoc (spec.rowStart r)]
      exact le_add_of_nonneg_right (nonneg_nonneg _)

end LayoutSpec

/-! ## Parts -/

/-- Something that has a place in the grid. -/
inductive Part where
  /-- A cell. -/
  | cell (column row : Nat)
  /-- The vertical axis of a cell. -/
  | left (column row : Nat)
  /-- The horizontal axis of a cell. -/
  | bottom (column row : Nat)
  /-- The header of a column. -/
  | columnHeader (column : Nat)
  /-- The header of a row. -/
  | rowHeader (row : Nat)

namespace Part

/-- The lane from left to right. -/
def columnLane : Part → Nat
  | .cell c _ | .bottom c _ | .columnHeader c => 2 * c + 2
  | .left c _ => 2 * c + 1
  | .rowHeader _ => 0

/-- The lane from top to bottom. -/
def rowLane : Part → Nat
  | .cell _ r | .left _ r | .rowHeader r => 2 * r + 1
  | .bottom _ r => 2 * r + 2
  | .columnHeader _ => 0

/-- A part is known by its lanes. -/
theorem ext_lanes {p q : Part} (hcolumn : p.columnLane = q.columnLane)
    (hrow : p.rowLane = q.rowLane) : p = q := by
  cases p <;> cases q <;> simp only [columnLane, rowLane] at hcolumn hrow <;>
    first | omega | (congr 1 <;> omega)

variable (spec : LayoutSpec Rat)

/-- The rectangle where the lanes of a part cross. -/
def rect (p : Part) : Rect Rat :=
  ⟨spec.columnTrack.start p.columnLane, spec.rowTrack.start p.rowLane,
    spec.columnTrack.stop p.columnLane, spec.rowTrack.stop p.rowLane⟩

/-- The size that decides whether there is room for a part; there always is for a cell. -/
def thickness? : Part → Option Rat
  | .cell _ _ => none
  | .left c _ => some (spec.leftStrip c)
  | .bottom _ r => some (spec.bottomStrip r)
  | .columnHeader _ => some (nonneg spec.columnHeader)
  | .rowHeader _ => some (nonneg spec.rowHeader)

/-- The rectangle of a part, if there is room for it. -/
def rect? (p : Part) : Option (Rect Rat) :=
  if ∀ x ∈ p.thickness? spec, 0 < x then some (p.rect spec) else none

variable {spec} {p q : Part}

/-- The rectangle of a part is where its lanes cross. -/
theorem eq_rect_of_rect? {r : Rect Rat} (h : p.rect? spec = some r) : r = p.rect spec := by
  rw [rect?] at h
  split at h
  · exact (Option.some.inj h).symm
  · cases h

/-- Different parts do not overlap. -/
theorem apart_rect (h : p ≠ q) : (p.rect spec).ApartFrom (q.rect spec) := by
  by_cases hcolumn : p.columnLane = q.columnLane
  · have hrow : p.rowLane ≠ q.rowLane := fun hrow ↦ h (ext_lanes hcolumn hrow)
    exact Rect.apartFrom_of_y (spec.rowTrack.apart hrow)
  · exact Rect.apartFrom_of_x (spec.columnTrack.apart hcolumn)

end Part

namespace LayoutSpec

variable (spec : LayoutSpec Rat)

/-- All parts of a grid, whether or not there is room for them. -/
def parts : List Part :=
  spec.perCell Part.cell ++ spec.perCell Part.left ++ spec.perCell Part.bottom ++
    (List.range spec.columnCount).map Part.columnHeader ++
    (List.range spec.rowCount).map Part.rowHeader

/-- No part occurs twice. -/
theorem nodup_parts : spec.parts.Nodup := by
  have hcell : (spec.perCell Part.cell).Nodup := nodup_perCell fun h ↦ Part.cell.inj h
  have hleft : (spec.perCell Part.left).Nodup := nodup_perCell fun h ↦ Part.left.inj h
  have hbottom : (spec.perCell Part.bottom).Nodup := nodup_perCell fun h ↦ Part.bottom.inj h
  have hcolumn : ((List.range spec.columnCount).map Part.columnHeader).Nodup :=
    List.nodup_range.map fun _ _ h ↦ Part.columnHeader.inj h
  have hrow : ((List.range spec.rowCount).map Part.rowHeader).Nodup :=
    List.nodup_range.map fun _ _ h ↦ Part.rowHeader.inj h
  simp only [parts, List.nodup_append, hcell, hleft, hbottom, hcolumn, hrow, List.mem_append,
    mem_perCell, List.mem_map]
  grind

/-- The lanes of a part are not beyond those of the last cells and of their horizontal axes. -/
theorem lanes_of_mem_parts {p : Part} (h : p ∈ spec.parts) :
    p.columnLane ≤ 2 * (spec.columnCount - 1) + 2 ∧ p.rowLane ≤ 2 * (spec.rowCount - 1) + 2 := by
  simp only [parts, List.mem_append, mem_perCell, List.mem_map, List.mem_range] at h
  rcases h with (((⟨r, hr, c, hc, rfl⟩ | ⟨r, hr, c, hc, rfl⟩) | ⟨r, hr, c, hc, rfl⟩) |
    ⟨c, hc, rfl⟩) | ⟨r, hr, rfl⟩ <;>
    simp only [Part.columnLane, Part.rowLane] <;> omega

/-! ## Rectangles of parts -/

theorem rect_cell (c r : Nat) : (Part.cell c r).rect spec = spec.cellRect c r := by
  simp [Part.rect, Part.columnLane, Part.rowLane, columnTrack, rowTrack, cellRect]

theorem rect?_cell (c r : Nat) : (Part.cell c r).rect? spec = some (spec.cellRect c r) := by
  rw [Part.rect?, if_pos (by rintro _ ⟨⟩), rect_cell]

theorem rect?_left (c r : Nat) : (Part.left c r).rect? spec = spec.leftRect? c r := by
  simp [Part.rect?, Part.thickness?, Part.rect, Part.columnLane, Part.rowLane, columnTrack,
    rowTrack, leftRect?, cellRect, Exact.zero_eq]

theorem rect?_bottom (c r : Nat) : (Part.bottom c r).rect? spec = spec.bottomRect? c r := by
  simp [Part.rect?, Part.thickness?, Part.rect, Part.columnLane, Part.rowLane, columnTrack,
    rowTrack, bottomRect?, cellRect, Exact.zero_eq]

/-- Parts that are decided on by one size are all there, or none of them is. -/
theorem filterMap_rect? {x : Rat} {f : Nat → Part} (hf : ∀ i, (f i).thickness? spec = some x)
    (n : Nat) : ((List.range n).map f).filterMap (Part.rect? spec) =
      if 0 < x then (List.range n).map fun i ↦ (f i).rect spec else [] := by
  rw [List.filterMap_map]
  split
  case isTrue hroom =>
    rw [← List.filterMap_eq_map]
    refine List.filterMap_congr fun i _ ↦ if_pos fun y hy ↦ ?_
    rw [hf] at hy
    exact Option.some.inj hy ▸ hroom
  case isFalse hnone =>
    rw [List.filterMap_eq_nil_iff]
    exact fun i _ ↦ if_neg fun hroom ↦ hnone (hroom x (hf i))

/-- The headers of columns, if there is room for them. -/
theorem filterMap_columnHeader :
    ((List.range spec.columnCount).map Part.columnHeader).filterMap (Part.rect? spec) =
      spec.columnHeaderRects := by
  have htop : spec.plot.y0 - nonneg spec.columnHeader = spec.marginTop :=
    add_sub_cancel_right spec.marginTop _
  rw [spec.filterMap_rect? (fun _ ↦ rfl), columnHeaderRects, Exact.zero_eq, htop]
  simp [Part.rect, Part.columnLane, Part.rowLane, columnTrack, rowTrack, plot, rowStart]

/-- The headers of rows, if there is room for them. -/
theorem filterMap_rowHeader :
    ((List.range spec.rowCount).map Part.rowHeader).filterMap (Part.rect? spec) =
      spec.rowHeaderRects := by
  rw [spec.filterMap_rect? (fun _ ↦ rfl), rowHeaderRects, Exact.zero_eq]
  simp [Part.rect, Part.columnLane, Part.rowLane, columnTrack, rowTrack]

/-- The parts of a layout are the parts of its grid for which there is room. -/
theorem parts_arrange : spec.arrange.parts = spec.parts.filterMap (Part.rect? spec) := by
  have hperCell (f : Nat → Nat → Part) : (spec.perCell f).filterMap (Part.rect? spec) =
      (spec.perCell fun c r ↦ (f c r).rect? spec).filterMap id := by
    rw [← map_perCell, List.filterMap_map]
    rfl
  have hcells : (spec.perCell Part.cell).filterMap (Part.rect? spec) =
      spec.perCell spec.cellRect := by
    simp only [hperCell, rect?_cell, ← map_perCell some]
    rw [List.filterMap_map]
    exact List.filterMap_some
  simp only [parts, List.filterMap_append, filterMap_columnHeader, filterMap_rowHeader, hcells]
  simp only [hperCell, rect?_left, rect?_bottom]
  rfl

/-- No two parts of a layout overlap. -/
theorem pairwise_parts_arrange : spec.arrange.parts.Pairwise Rect.ApartFrom := by
  rw [parts_arrange, List.pairwise_filterMap]
  refine spec.nodup_parts.imp fun hne r hr s hs ↦ ?_
  rw [Part.eq_rect_of_rect? hr, Part.eq_rect_of_rect? hs]
  exact Part.apart_rect hne

/-! ## Bounds -/

/-- The rectangle between the first lanes and the last ones. -/
theorem frame_eq : spec.frame = ⟨spec.columnTrack.start 0, spec.rowTrack.start 0,
    spec.columnTrack.stop (2 * (spec.columnCount - 1) + 2),
    spec.rowTrack.stop (2 * (spec.rowCount - 1) + 2)⟩ := by
  simp [frame, columnTrack, rowTrack, add_assoc]

/-- Each part is in the frame. -/
theorem rect_liesIn_frame {p : Part} (h : p ∈ spec.parts) : (p.rect spec).LiesIn spec.frame := by
  obtain ⟨hcolumn, hrow⟩ := spec.lanes_of_mem_parts h
  rw [frame_eq]
  exact
    { left := spec.columnTrack.start_mono (Nat.zero_le _)
      top := spec.rowTrack.start_mono (Nat.zero_le _)
      right := spec.columnTrack.stop_mono hcolumn
      bottom := spec.rowTrack.stop_mono hrow
      x0_le_x1 := spec.columnTrack.start_le_stop _
      y0_le_y1 := spec.rowTrack.start_le_stop _ }

/-- The frame is in the scene. -/
theorem frame_liesIn_view : spec.frame.LiesIn spec.arrange.view := by
  have hmargin (orient : LegendOrient) (extent : Size Rat → Rat) :
      0 ≤ nonneg spec.outerPadding + spec.legendDepth orient extent :=
    add_nonneg (nonneg_nonneg _) (spec.legendDepth_nonneg _ _)
  refine
    { left := Exact.zero_eq.trans_le (hmargin _ _)
      top := Exact.zero_eq.trans_le (hmargin _ _)
      right := le_add_of_nonneg_right (hmargin _ _)
      bottom := le_add_of_nonneg_right (hmargin _ _)
      x0_le_x1 := ?_
      y0_le_y1 := ?_ }
  · rw [frame_eq]
    exact (spec.columnTrack.start_le_stop 0).trans (spec.columnTrack.stop_mono (Nat.zero_le _))
  · rw [frame_eq]
    exact (spec.rowTrack.start_le_stop 0).trans (spec.rowTrack.stop_mono (Nat.zero_le _))

theorem columnStart_mono {c c' : Nat} (h : c ≤ c') : spec.columnStart c ≤ spec.columnStart c' := by
  have hlanes : 2 * c + 2 ≤ 2 * c' + 2 := by omega
  simpa [columnTrack] using spec.columnTrack.start_mono hlanes

theorem rowStart_mono {r r' : Nat} (h : r ≤ r') : spec.rowStart r ≤ spec.rowStart r' := by
  have hlanes : 2 * r + 1 ≤ 2 * r' + 1 := by omega
  simpa [rowTrack] using spec.rowTrack.start_mono hlanes

/-- Each cell is in the plot. -/
theorem cellRect_liesIn_plot {c r : Nat} (hc : c < spec.columnCount) (hr : r < spec.rowCount) :
    (spec.cellRect c r).LiesIn spec.plot where
  left := spec.columnStart_mono (Nat.zero_le _)
  top := spec.rowStart_mono (Nat.zero_le _)
  right := add_le_add_left (spec.columnStart_mono (Nat.le_sub_one_of_lt hc)) _
  bottom := add_le_add_left (spec.rowStart_mono (Nat.le_sub_one_of_lt hr)) _
  x0_le_x1 := le_add_of_nonneg_right (nonneg_nonneg _)
  y0_le_y1 := le_add_of_nonneg_right (nonneg_nonneg _)

/-- What holds the first cell and the last one holds the plot. -/
theorem plot_liesIn {s : Rect Rat} (hfirst : (spec.cellRect 0 0).LiesIn s)
    (hlast : (spec.cellRect (spec.columnCount - 1) (spec.rowCount - 1)).LiesIn s) :
    spec.plot.LiesIn s where
  left := hfirst.left
  top := hfirst.top
  right := hlast.right
  bottom := hlast.bottom
  x0_le_x1 := (spec.columnStart_mono (Nat.zero_le _)).trans hlast.x0_le_x1
  y0_le_y1 := (spec.rowStart_mono (Nat.zero_le _)).trans hlast.y0_le_y1

/-- The plot is in the frame. -/
theorem plot_liesIn_frame : spec.plot.LiesIn spec.frame := by
  have hcell {c r : Nat} (hc : c < spec.columnCount) (hr : r < spec.rowCount) :
      (spec.cellRect c r).LiesIn spec.frame := by
    rw [← rect_cell]
    refine spec.rect_liesIn_frame ?_
    simp only [parts, List.append_assoc, List.mem_append]
    exact .inl (mem_perCell.mpr ⟨r, hr, c, hc, rfl⟩)
  exact spec.plot_liesIn (hcell spec.columnCount_pos spec.rowCount_pos)
    (hcell (Nat.sub_one_lt spec.columnCount_pos.ne') (Nat.sub_one_lt spec.rowCount_pos.ne'))

/-- A layout is a tiling. -/
theorem isTiling_arrange :
    spec.arrange.IsTiling (max spec.columns 1) (max spec.rows 1) where
  length_cells := length_perCell
  beside r hr c' hc' c hc := by
    have hlanes : 2 * c + 2 < 2 * c' + 2 := by omega
    refine ⟨_, _, getElem?_perCell rfl rfl (hc.trans hc') hr,
      getElem?_perCell rfl rfl hc' hr, rfl, rfl, ?_⟩
    simpa [columnTrack, cellRect] using spec.columnTrack.stop_le_start hlanes
  below c hc r' hr' r hr := by
    have hlanes : 2 * r + 1 < 2 * r' + 1 := by omega
    refine ⟨_, _, getElem?_perCell rfl rfl hc (hr.trans hr'),
      getElem?_perCell rfl rfl hc hr', rfl, rfl, ?_⟩
    simpa [rowTrack, cellRect] using spec.rowTrack.stop_le_start hlanes
  apart := spec.pairwise_parts_arrange
  parts_liesIn_frame r hr := by
    rw [parts_arrange] at hr
    obtain ⟨p, hp, hpr⟩ := List.mem_filterMap.mp hr
    rw [Part.eq_rect_of_rect? hpr]
    exact spec.rect_liesIn_frame hp
  frame_liesIn_view := spec.frame_liesIn_view
  cells_liesIn_plot a ha := by
    obtain ⟨r, hr, c, hc, rfl⟩ := mem_perCell.mp ha
    exact spec.cellRect_liesIn_plot hc hr
  plot_least s hs := by
    have hcell {c r : Nat} (hc : c < spec.columnCount) (hr : r < spec.rowCount) :
        (spec.cellRect c r).LiesIn s := hs _ (mem_perCell.mpr ⟨r, hr, c, hc, rfl⟩)
    exact spec.plot_liesIn (hcell spec.columnCount_pos spec.rowCount_pos)
      (hcell (Nat.sub_one_lt spec.columnCount_pos.ne') (Nat.sub_one_lt spec.rowCount_pos.ne'))

end LayoutSpec

end Charting
