import Mathlib.Data.List.Nodup
import Mathlib.Data.List.ProdSigma
import Mathlib.Data.List.TakeWhile
import Charting.Scene.Layout

/-!
# Lists row by row

What belongs to the cells of a grid is listed row by row.  The entry of a cell is found at the
number of cells in the rows before it plus the number of cells before it in its row
(`getElem?_rowByRow`).  The entries of the first row come first, and can be counted by what only they
have in common (`length_takeWhile_rowByRow`).
-/

namespace Charting

section Positions

variable {columns c r : Nat}

/-- The position of a cell is before the end of all cells. -/
theorem rowByRow_index_lt {rows : Nat} (hc : c < columns) (hr : r < rows) :
    r * columns + c < rows * columns := by
  calc r * columns + c < r * columns + columns := Nat.add_lt_add_left hc _
    _ = (r + 1) * columns := (Nat.succ_mul r columns).symm
    _ ≤ rows * columns := Nat.mul_le_mul_right columns hr

/-- Cells of a grid have different positions. -/
theorem rowByRow_index_inj {c' r' : Nat} (hc : c < columns) (hc' : c' < columns)
    (h : r' * columns + c' = r * columns + c) : c' = c ∧ r' = r := by
  have hmod := congrArg (· % columns) h
  have hdiv := congrArg (· / columns) h
  have hpos : 0 < columns := Nat.zero_lt_of_lt hc
  simp only [Nat.mul_add_mod_self_right, Nat.mod_eq_of_lt hc, Nat.mod_eq_of_lt hc'] at hmod
  simp only [Nat.mul_comm _ columns, Nat.mul_add_div hpos, Nat.div_eq_of_lt hc,
    Nat.div_eq_of_lt hc', Nat.add_zero] at hdiv
  exact ⟨hmod, hdiv⟩

end Positions

section RowByRow

variable {α : Type} (rows columns : Nat) (f : (column row : Nat) → α)

theorem length_rowByRow :
    ((List.range rows).flatMap fun r ↦ (List.range columns).map fun c ↦ f c r).length =
      rows * columns := by
  simp [List.length_flatMap]

/-- Where the entry of a cell is. -/
theorem getElem?_rowByRow {c r : Nat} (hc : c < columns) (hr : r < rows) :
    ((List.range rows).flatMap fun r ↦ (List.range columns).map fun c ↦ f c r)[r * columns + c]? =
      some (f c r) := by
  induction rows with
  | zero => cases hr
  | succ rows ih =>
      rw [List.range_succ, List.flatMap_append, List.flatMap_singleton]
      have hlength := length_rowByRow rows columns f
      rcases Nat.lt_succ_iff_lt_or_eq.mp hr with hlt | rfl
      · rw [List.getElem?_append_left (hlength ▸ rowByRow_index_lt hc hlt), ih hlt]
      · rw [List.getElem?_append_right (hlength ▸ Nat.le_add_right _ _), hlength,
          Nat.add_sub_cancel_left, List.getElem?_map, List.getElem?_range hc]
        rfl

/-- Every place in the list is that of a cell. -/
theorem exists_rowByRow_index {i : Nat} (h : i < rows * columns) :
    ∃ c < columns, ∃ r < rows, r * columns + c = i := by
  have hpos : 0 < columns := Nat.pos_of_mul_pos_left (Nat.zero_lt_of_lt h)
  refine ⟨i % columns, Nat.mod_lt i hpos, i / columns, ?_, Nat.div_add_mod' i columns⟩
  exact (Nat.div_lt_iff_lt_mul hpos).mpr h

/-- If the entries of the first row pass a test, and no other ones do, there are as many entries
before the first that fails as there are columns. -/
theorem length_takeWhile_rowByRow {p : α → Bool} (hrows : 0 < rows)
    (hfirst : ∀ c < columns, p (f c 0) = true)
    (hnext : ∀ r, 0 < r → r < rows → ∀ c < columns, p (f c r) = false) :
    (((List.range rows).flatMap fun r ↦
      (List.range columns).map fun c ↦ f c r).takeWhile p).length = columns := by
  obtain ⟨n, rfl⟩ := Nat.exists_eq_add_of_lt hrows
  rw [Nat.zero_add, List.range_succ_eq_map, List.flatMap_cons, List.takeWhile_append_of_pos]
  · have hrest : ((List.range n).map Nat.succ |>.flatMap fun r ↦
        (List.range columns).map fun c ↦ f c r).takeWhile p = [] := by
      rw [List.takeWhile_eq_nil_iff]
      intro hlength hp
      obtain ⟨r, hr, hcell⟩ := List.mem_flatMap.mp (List.get_mem _ ⟨0, hlength⟩)
      obtain ⟨r, hr, rfl⟩ := List.mem_map.mp hr
      obtain ⟨c, hc, hcell⟩ := List.mem_map.mp hcell
      rw [← hcell, hnext (r + 1) r.succ_pos (by simpa using hr) c (List.mem_range.mp hc)] at hp
      cases hp
    rw [hrest]
    simp
  · intro a ha
    obtain ⟨c, hc, rfl⟩ := List.mem_map.mp ha
    exact hfirst c (List.mem_range.mp hc)

end RowByRow

namespace LayoutSpec

variable {R : Type} (spec : LayoutSpec R) {α β : Type}

theorem columnCount_pos : 0 < spec.columnCount :=
  Nat.lt_of_lt_of_le Nat.one_pos (Nat.le_max_right _ _)

theorem rowCount_pos : 0 < spec.rowCount :=
  Nat.lt_of_lt_of_le Nat.one_pos (Nat.le_max_right _ _)

variable {spec} {f : (column row : Nat) → α}

theorem length_perCell : (spec.perCell f).length = spec.rowCount * spec.columnCount :=
  length_rowByRow ..

/-- What there is for a cell. -/
theorem getElem?_perCell {columns rows : Nat} (hcolumns : spec.columnCount = columns)
    (hrows : spec.rowCount = rows) {c r : Nat} (hc : c < columns) (hr : r < rows) :
    (spec.perCell f)[r * columns + c]? = some (f c r) := by
  rw [← hcolumns] at hc ⊢
  rw [← hrows] at hr
  exact getElem?_rowByRow _ _ _ hc hr

theorem mem_perCell {a : α} :
    a ∈ spec.perCell f ↔ ∃ r < spec.rowCount, ∃ c < spec.columnCount, f c r = a := by
  simp [perCell]

/-- Something is done with what there is for each cell. -/
theorem map_perCell (g : α → β) : (spec.perCell f).map g = spec.perCell fun c r ↦ g (f c r) := by
  rw [perCell, List.map_flatMap]
  refine List.flatMap_congr fun r _ ↦ ?_
  rw [List.map_map]
  rfl

/-- Different cells have different things if no thing belongs to two cells. -/
theorem nodup_perCell (hf : ∀ {c r c' r'}, f c r = f c' r' → c = c' ∧ r = r') :
    (spec.perCell f).Nodup := by
  have hproduct : spec.perCell f =
      (List.range spec.rowCount ×ˢ List.range spec.columnCount).map fun k ↦ f k.2 k.1 := by
    change _ = ((List.range spec.rowCount).flatMap fun r ↦
      (List.range spec.columnCount).map (Prod.mk r)).map _
    rw [List.map_flatMap]
    refine List.flatMap_congr fun r _ ↦ ?_
    rw [List.map_map]
    rfl
  rw [hproduct]
  refine (List.nodup_range.product List.nodup_range).map fun k k' h ↦ ?_
  obtain ⟨hcolumn, hrow⟩ := hf h
  exact Prod.ext hrow hcolumn

end LayoutSpec

end Charting
