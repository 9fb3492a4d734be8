import Mathlib.Tactic.Ring
import Charting.Proofs.Scene.Tiling

/-!
# Cells by column and row

A layout does not keep the number of its columns.  It is counted when a cell is looked up: the cells
of the first row are as high up as the first cell.  Rows that begin below one another are told apart
in this way, but rows without any height, axis or gap are not, and all cells count as those of the
first row then (`LayoutSpec.columnCount_arrange`).  So cells are found by their columns and rows
exactly if rows are some way apart, or if the count makes no difference
(`LayoutSpec.cell?_arrange_iff`), as far as cells can be counted in 64 bits.
-/

namespace Charting

namespace LayoutSpec

variable (spec : LayoutSpec Rat)

/-! ## Heights -/

/-- How far a row is below the one before it. -/
def rowPitch : Rat :=
  spec.cellHeight + AxisStrip.room spec.axisBottom false + nonneg spec.spacing

theorem rowPitch_nonneg : 0 ≤ spec.rowPitch :=
  add_nonneg (add_nonneg (nonneg_nonneg _) (AxisStrip.room_nonneg _ _)) (nonneg_nonneg _)

variable {spec}

/-- Rows follow one another at equal distances. -/
theorem rowStart_eq {r : Nat} (hr : r < spec.rowCount) :
    spec.rowStart r = spec.rowStart 0 + r * spec.rowPitch := by
  induction r with
  | zero => simp
  | succ r ih =>
      -- There is a row below, so that this one has an axis only if every row has one.
      have hstrip : spec.bottomStrip r = AxisStrip.room spec.axisBottom false := by
        rw [bottomStrip, beq_false_of_ne hr.ne]
      calc spec.rowStart (r + 1)
          _ = spec.rowStart r + (spec.cellHeight + spec.bottomStrip r) + nonneg spec.spacing := rfl
          _ = spec.rowStart 0 + (r + 1 : Nat) * spec.rowPitch := by
            rw [ih (Nat.lt_of_succ_lt hr), hstrip, rowPitch]
            push_cast
            ring

/-- A row is as high up as the first one if it is the first one, or if rows are not apart. -/
theorem rowStart_eq_rowStart_zero_iff {r : Nat} (hr : r < spec.rowCount) :
    spec.rowStart r = spec.rowStart 0 ↔ r = 0 ∨ spec.rowPitch = 0 := by
  rw [rowStart_eq hr]
  simp

/-! ## The count of columns -/

theorem cells_arrange : spec.arrange.cells = spec.perCell spec.cellRect := rfl

/-- The first cell comes first. -/
theorem exists_cells_eq_cons : ∃ rest, spec.arrange.cells = spec.cellRect 0 0 :: rest := by
  have hfirst := getElem?_perCell (f := spec.cellRect) rfl rfl spec.columnCount_pos
    spec.rowCount_pos
  rw [Nat.zero_mul, ← cells_arrange] at hfirst
  cases hcells : spec.arrange.cells with
  | nil =>
      rw [hcells] at hfirst
      cases hfirst
  | cons first rest =>
      rw [hcells] at hfirst
      exact ⟨rest, congrArg (· :: rest) (Option.some.inj hfirst)⟩

/-- Columns are counted if rows are apart, and cells if they are not. -/
theorem columnCount_arrange : spec.arrange.columnCount =
    if 0 < spec.rowPitch then spec.columnCount else spec.rowCount * spec.columnCount := by
  obtain ⟨rest, hrest⟩ := spec.exists_cells_eq_cons
  have hcount : spec.arrange.columnCount =
      max (spec.arrange.cells.takeWhile fun c ↦ c.y0 == spec.rowStart 0).length 1 := by
    rw [Layout.columnCount, hrest]
    rfl
  have hsame {c r : Nat} (hr : r < spec.rowCount) :
      ((spec.cellRect c r).y0 == spec.rowStart 0) = decide (r = 0 ∨ spec.rowPitch = 0) := by
    rw [Bool.eq_iff_iff, beq_iff_eq, decide_eq_true_iff]
    exact rowStart_eq_rowStart_zero_iff hr
  rw [hcount]
  split
  case isTrue hpos =>
    rw [cells_arrange, perCell, length_takeWhile_rowByRow _ _ _ spec.rowCount_pos]
    · exact max_eq_left spec.columnCount_pos
    · intro c _
      rw [hsame spec.rowCount_pos]
      simp
    · intro r hpos' hr c _
      rw [hsame hr]
      simp [hpos'.ne', hpos.ne']
  case isFalse hnot =>
    have hzero : spec.rowPitch = 0 := le_antisymm (not_lt.mp hnot) spec.rowPitch_nonneg
    rw [List.takeWhile_eq_self_iff.mpr, cells_arrange, length_perCell]
    · exact max_eq_left (Nat.mul_pos spec.rowCount_pos spec.columnCount_pos)
    · intro a ha
      obtain ⟨r, hr, c, -, rfl⟩ := mem_perCell.mp ha
      rw [hsame hr, hzero]
      simp

/-! ## Cells -/

/-- In full rows, nothing is found after the last row. -/
theorem cell?_eq_of_length {l : Layout Rat} {rows column row : Nat}
    (hlength : l.cells.length = rows * l.columnCount)
    (hfits : row * l.columnCount + column < 2 ^ 64) :
    l.cell? column row =
      if column < l.columnCount ∧ row < rows then l.cells[row * l.columnCount + column]?
      else none := by
  have hwrap : wrapNat64 (row * l.columnCount + column) = row * l.columnCount + column :=
    Nat.mod_eq_of_lt hfits
  rw [Layout.cell?, hwrap, ite_and]
  split
  case isFalse => rfl
  case isTrue hcolumn =>
    split
    case isTrue => rfl
    case isFalse hrow =>
      rw [List.getElem?_eq_none_iff, hlength]
      exact (Nat.mul_le_mul_right _ (not_lt.mp hrow)).trans (Nat.le_add_right _ _)

variable {column row : Nat}

/-- If rows are apart, the cell in a column and a row is found. -/
theorem cell?_arrange_of_pos (hfits : row * spec.arrange.columnCount + column < 2 ^ 64)
    (h : 0 < spec.rowPitch) :
    spec.arrange.cell? column row =
      if column < spec.columnCount ∧ row < spec.rowCount then
        spec.arrange.cells[row * spec.columnCount + column]?
      else none := by
  have hcount : spec.arrange.columnCount = spec.columnCount := by
    rw [columnCount_arrange, if_pos h]
  have hlength : spec.arrange.cells.length = spec.rowCount * spec.arrange.columnCount := by
    rw [hcount, cells_arrange, length_perCell]
  rw [cell?_eq_of_length hlength hfits, hcount]

/-- If they are not, every cell is found as one of the first row. -/
theorem cell?_arrange_of_not_pos (hfits : row * spec.arrange.columnCount + column < 2 ^ 64)
    (h : ¬0 < spec.rowPitch) :
    spec.arrange.cell? column row = if row = 0 then spec.arrange.cells[column]? else none := by
  have hcount : spec.arrange.columnCount = spec.arrange.cells.length := by
    rw [columnCount_arrange, if_neg h, cells_arrange, length_perCell]
  have hlength : spec.arrange.cells.length = 1 * spec.arrange.columnCount := by
    rw [hcount, Nat.one_mul]
  rw [cell?_eq_of_length hlength hfits, hcount]
  simp only [Nat.lt_one_iff]
  by_cases hrow : row = 0
  · subst hrow
    by_cases hcolumn : column < spec.arrange.cells.length <;> simp [hcolumn]
  · simp [hrow]

/-- As far as 64 bits can count, the cell in a column and a row is found, and nothing where there is
no cell, exactly if rows are apart or the count does not matter: it matters to the cells after the
first row, which are found in the first row only. -/
theorem cell?_arrange_iff (hfits : row * spec.arrange.columnCount + column < 2 ^ 64) :
    spec.arrange.cells.length = spec.rowCount * spec.columnCount ∧
      (spec.arrange.cell? column row =
          (if column < spec.columnCount ∧ row < spec.rowCount then
            spec.arrange.cells[row * spec.columnCount + column]?
          else none) ↔
        0 < spec.rowPitch ∨
          ¬(row = 0 ∧ spec.columnCount ≤ column ∧ column < spec.rowCount * spec.columnCount ∨
            0 < row ∧ row < spec.rowCount ∧ column < spec.columnCount)) := by
  have hlength : spec.arrange.cells.length = spec.rowCount * spec.columnCount := length_perCell
  refine ⟨hlength, ?_⟩
  by_cases hpos : 0 < spec.rowPitch
  · exact iff_of_true (cell?_arrange_of_pos hfits hpos) (.inl hpos)
  · rw [cell?_arrange_of_not_pos hfits hpos, or_iff_right hpos]
    by_cases hcell : column < spec.columnCount ∧ row < spec.rowCount
    · -- There is a cell, which is found in the first row only.
      obtain ⟨hcolumn, hrow⟩ := hcell
      have hfound : spec.arrange.cells[row * spec.columnCount + column]? =
          some (spec.cellRect column row) := getElem?_perCell rfl rfl hcolumn hrow
      rcases Nat.eq_zero_or_pos row with rfl | hpos'
      · simp [hcolumn, hrow, hcolumn.not_ge]
      · simp [hcolumn, hrow, hfound, hpos', hpos'.ne']
    · -- There is none, but one of another row is found in the first row.
      rw [if_neg hcell]
      rcases Nat.eq_zero_or_pos row with rfl | hpos'
      · have hcolumn : spec.columnCount ≤ column := by
          by_contra hlt
          exact hcell ⟨not_le.mp hlt, spec.rowCount_pos⟩
        simp [hcolumn, hlength]
      · have hnone : ¬(row < spec.rowCount ∧ column < spec.columnCount) := fun h ↦ hcell h.symm
        simp [hpos'.ne', hpos', hnone]

/-- Two rows of two cells that have no height. -/
def flatRows : LayoutSpec Rat where
  columns := 2
  rows := 2
  cellSize := ⟨100, 0⟩
  spacing := 0
  outerPadding := 0
  axisLeft := none
  axisBottom := none
  columnHeader := 0
  rowHeader := 0
  legends := []
  legendSpacing := 0

/-- Both cells of the first row are found, but no cell of the second row. -/
theorem cell?_arrange_iff_flatRows :
    flatRows.arrange.cell? 1 0 = flatRows.arrange.cells[1]? ∧
      flatRows.arrange.cell? 0 1 ≠ flatRows.arrange.cells[2]? := by
  have hpitch : ¬0 < flatRows.rowPitch := by decide +kernel
  constructor
  · have hfirst := (@cell?_arrange_iff flatRows 1 0 (by decide +kernel)).2
    exact hfirst.mpr (.inr (by decide))
  · have hsecond := (@cell?_arrange_iff flatRows 0 1 (by decide +kernel)).2
    exact fun h ↦ (hsecond.mp h).elim hpitch fun hnot ↦ hnot (.inr (by decide))

/-- The cell in a column and a row is not always found. -/
theorem not_forall_cell?_arrange :
    ¬∀ (spec : LayoutSpec Rat) (column row : Nat), spec.arrange.cell? column row =
      if column < spec.columnCount ∧ row < spec.rowCount then
        spec.arrange.cells[row * spec.columnCount + column]?
      else none := by
  intro h
  have hcell : flatRows.arrange.cell? 0 1 = flatRows.arrange.cells[2]? := h flatRows 0 1
  exact absurd hcell (by decide +kernel)

end LayoutSpec

end Charting
