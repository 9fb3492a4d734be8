import Charting.Proofs.Indexed.Slots
import Charting.Proofs.Scene.Grid

/-!
# Layouts with checked reads

The rectangle around all cells is made of the first and the last of the edges of columns and rows,
of which there is always one.  Legends are stacked with one cursor for each orientation that has
occurred, which is looked for among the cursors and moved on (`Indexed.arrange_eq_ok`).
-/

namespace Charting.Indexed

variable {R : Type} [Scalar R]

/-! ## Cursors -/

/-- The position of the cursor of a legend; if there is none yet, one comes to the end. -/
def cursor (plot : Rect R) (cursors : List (LegendOrient × R)) (b : LegendBox R) :
    Nat × List (LegendOrient × R) :=
  match cursors.findIdx? (·.1 = b.orient) with
  | some i => (i, cursors)
  | none =>
    let cursors := cursors ++ [(b.orient, b.start plot)]
    (cursors.length - 1, cursors)

/-- The rectangles of legends, where the cursors tell how far the stacks have come. -/
def stack (frame plot : Rect R) (gap : R) :
    (cursors : List (LegendOrient × R)) → List (LegendBox R) → Except (Fault R) (List (Rect R))
  | _, [] => .ok []
  | cursors, b :: rest => do
    let (i, cursors) := cursor plot cursors b
    let (_, at₀) ← read cursors i
    let cursors ← modify cursors i fun c => (c.1, b.next gap at₀)
    let rects ← stack frame plot gap cursors rest
    .ok (b.rect frame plot at₀ :: rects)

/-- The cursor of a legend is found, and moved on. -/
theorem cursor_eq_ok (plot : Rect R) (cursors : List (LegendOrient × R)) (b : LegendBox R)
    (gap : R) :
    (read (cursor plot cursors b).2 (cursor plot cursors b).1 : Except (Fault R) _) =
        .ok (b.orient, (cursors.lookup b.orient).getD (b.start plot)) ∧
      (modify (cursor plot cursors b).2 (cursor plot cursors b).1 fun c ↦
        (c.1, b.next gap ((cursors.lookup b.orient).getD (b.start plot))) : Except (Fault R) _) =
        .ok (updateGroup b.orient (b.start plot) (b.next gap) cursors) := by
  rw [cursor]
  cases hi : cursors.findIdx? (·.1 = b.orient) with
  | some i =>
      obtain ⟨at₀, hcursor, hlookup⟩ := lookup_of_findIdx?_eq_some hi
      obtain ⟨at', hcursor', hupdate⟩ :=
        updateGroup_of_findIdx?_eq_some hi (b.start plot) (b.next gap)
      obtain rfl : at₀ = at' := (Prod.mk.inj (Option.some.inj (hcursor.symm.trans hcursor'))).2
      rw [hlookup, Option.getD_some, hupdate]
      exact ⟨read_eq_ok hcursor, modify_eq_ok hcursor _⟩
  | none =>
      rw [lookup_of_findIdx?_eq_none hi, Option.getD_none, updateGroup_of_findIdx?_eq_none hi]
      dsimp only
      rw [List.length_append, List.length_singleton, Nat.add_sub_cancel]
      exact ⟨read_eq_ok (by simp), modify_concat rfl _ _⟩

/-- Legends are stacked the same with cursors. -/
theorem stack_eq_ok (frame plot : Rect R) (gap : R) (legends : List (LegendBox R))
    {cursors : List (LegendOrient × R)} {taken : LegendOrient → Option R}
    (h : ∀ o, cursors.lookup o = taken o) :
    stack frame plot gap cursors legends = .ok (LegendBox.stack frame plot gap taken legends) := by
  induction legends generalizing cursors taken with
  | nil => rfl
  | cons b legends ih =>
      obtain ⟨hread, hmodify⟩ := cursor_eq_ok (R := R) plot cursors b gap
      rw [h b.orient] at hread hmodify
      have hnext : ∀ o, (updateGroup b.orient (b.start plot) (b.next gap) cursors).lookup o =
          if o = b.orient then some (b.next gap ((taken b.orient).getD (b.start plot)))
          else taken o := by
        intro o
        rw [lookup_updateGroup, h, h]
      rw [stack, LegendBox.stack]
      refine bind_ok_iff.mpr ⟨_, hread, bind_ok_iff.mpr ⟨_, hmodify, ?_⟩⟩
      exact bind_ok_iff.mpr ⟨_, ih hnext, rfl⟩

/-! ## Edges -/

/-- The rectangle around all cells. -/
def plotRect (spec : LayoutSpec R) : Except (Fault R) (Rect R) := do
  let columnStarts := (List.range spec.columnCount).map spec.columnStart
  let rowStarts := (List.range spec.rowCount).map spec.rowStart
  let x₀ ← read columnStarts 0
  let y₀ ← read rowStarts 0
  let x₁ ← read columnStarts (spec.columnCount - 1)
  let y₁ ← read rowStarts (spec.rowCount - 1)
  .ok ⟨x₀, y₀, x₁ + spec.cellWidth, y₁ + spec.cellHeight⟩

/-- The rectangles of everything. -/
def arrange (spec : LayoutSpec R) : Except (Fault R) (Layout R) := do
  let plot ← plotRect spec
  let legends ← stack spec.frame plot (nonneg spec.legendSpacing) [] spec.legends
  .ok { spec.arrange with plot := plot, legends := legends }

/-- The first and the last column and row are there. -/
theorem plotRect_eq_ok (spec : LayoutSpec R) : plotRect spec = .ok spec.plot := by
  have hstart : ∀ {n i : Nat} (f : Nat → R), i < n →
      (read ((List.range n).map f) i : Except (Fault R) R) = .ok (f i) := by
    intro n i f hi
    refine read_eq_ok ?_
    rw [List.getElem?_map, List.getElem?_range hi, Option.map_some]
  rw [plotRect, hstart _ spec.columnCount_pos, hstart _ spec.rowCount_pos,
    hstart _ (Nat.sub_one_lt_of_lt spec.columnCount_pos),
    hstart _ (Nat.sub_one_lt_of_lt spec.rowCount_pos)]
  rfl

/-- Everything is arranged the same without checks. -/
theorem arrange_eq_ok (spec : LayoutSpec R) : arrange spec = .ok spec.arrange := by
  rw [arrange, plotRect_eq_ok]
  refine bind_ok_iff.mpr ⟨spec.plot, rfl, bind_ok_iff.mpr ⟨_, stack_eq_ok _ _ _ _ fun _ ↦ rfl, rfl⟩⟩

end Charting.Indexed
