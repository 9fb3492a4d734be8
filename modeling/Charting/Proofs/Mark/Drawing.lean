import Mathlib.Data.List.Flatten
import Charting.Mark.Drawing
import Charting.Proofs.Data.Grouping
import Charting.Proofs.Success

/-!
# What is drawn of each row

Marks name the rows that they stand for.  A row is named once if it has a place on both axes, and a
label where labels are drawn, and otherwise not at all (`Drawing.shows`).  This is so for marks of
single rows and for marks of series alike, in whatever order they are drawn
(`Drawing.rows_marks_perm`).
-/

namespace Charting

/-- Elements that pass a test, one by one. -/
theorem map_filter_eq_flatMap {α β : Type} (p : α → Bool) (f : α → β) (xs : List α) :
    (xs.filter p).map f = xs.flatMap fun x ↦ if p x then [f x] else [] := by
  induction xs with
  | nil => rfl
  | cons x xs ih => cases hx : p x <;> simp [hx, ih]

variable {R : Type} [Scalar R]

/-- The order of drawing is an order of the same rows. -/
theorem Encodings.drawOrder_perm (encodings : Encodings R) (rows : List (Row R)) :
    (encodings.drawOrder rows).Perm rows := by
  rw [drawOrder]
  cases encodings.field? .order with
  | none => exact .refl rows
  | some f => exact List.mergeSort_perm rows _

namespace Drawing

/-- A row is shown if it has a place on both axes, and a label if it is drawn as one. -/
def shows (d : Drawing R) (row : Row R) : Bool :=
  (d.encodings.place? .x row).isSome && (d.encodings.place? .y row).isSome &&
    (d.mark.kind != .text || (d.label? row).isSome)

/-- What it takes to be shown. -/
theorem shows_iff {d : Drawing R} {row : Row R} :
    d.shows row = true ↔ (d.encodings.place? .x row).isSome ∧
      (d.encodings.place? .y row).isSome ∧ (d.mark.kind = .text → (d.label? row).isSome) := by
  rw [shows, Bool.and_eq_true, Bool.and_eq_true, Bool.or_eq_true, bne_iff_ne, and_assoc,
    ← Decidable.imp_iff_not_or]

/-! ## Marks of single rows -/

/-- A figure lacks nothing but a label. -/
theorem isSome_figure? {d : Drawing R} (hkind : d.mark.kind.isSeries = false) (row : Row R)
    (x y : Place R) :
    (d.figure? row x y).isSome = (d.mark.kind != .text || (d.label? row).isSome) := by
  rw [figure?]
  cases hd : d.mark.kind <;> simp_all [MarkKind.isSeries]

/-- A row has a mark of its own if it is shown. -/
theorem isSome_markOf? {d : Drawing R} (hkind : d.mark.kind.isSeries = false) (row : Row R) :
    (d.markOf? row).isSome = d.shows row := by
  rw [markOf?, shows]
  cases d.encodings.place? .x row with
  | none => rfl
  | some x =>
      cases d.encodings.place? .y row with
      | none => rfl
      | some y =>
          have hfigure := isSome_figure? hkind row x y
          cases hd : d.figure? row x y <;> simp_all

/-- A mark of a single row stands for this row. -/
theorem rows_of_markOf? {d : Drawing R} {row : Row R} {m : Mark R} (h : d.markOf? row = some m) :
    m.rows = [row.key] := by
  obtain ⟨x, -, h⟩ := Option.bind_eq_some_iff.mp h
  obtain ⟨y, -, h⟩ := Option.bind_eq_some_iff.mp h
  obtain ⟨figure, -, h⟩ := Option.bind_eq_some_iff.mp h
  rw [← Option.some.inj h]
  rfl

/-- Marks of single rows stand for the rows that are shown. -/
theorem rows_filterMap_markOf? {d : Drawing R} (hkind : d.mark.kind.isSeries = false)
    (rows : List (Row R)) :
    (rows.filterMap d.markOf?).flatMap (·.rows) = (rows.filter d.shows).map (·.key) := by
  rw [List.filterMap_eq_flatMap_toList, List.flatMap_assoc, map_filter_eq_flatMap]
  refine List.flatMap_congr fun row _ ↦ ?_
  rw [← isSome_markOf? hkind]
  cases hm : d.markOf? row with
  | none => rfl
  | some m => simp [rows_of_markOf? hm]

/-! ## Marks of series -/

/-- Whether a row has a place on both axes. -/
def isPlaced (d : Drawing R) (row : Row R) : Bool :=
  (d.encodings.place? .x row).isSome && (d.encodings.place? .y row).isSome

/-- A row has a point in its series if it has a place. -/
theorem isSome_vertex?_eq_isPlaced {d : Drawing R} (row : Row R) :
    (d.vertex? row).isSome = d.isPlaced row := by
  rw [vertex?, isPlaced]
  cases d.encodings.place? .x row with
  | none => rfl
  | some x => cases d.encodings.place? .y row <;> rfl

/-- A row has a point in its series if it is shown. -/
theorem isSome_vertex? {d : Drawing R} (hkind : d.mark.kind.isSeries = true) (row : Row R) :
    (d.vertex? row).isSome = d.shows row := by
  have htext : (d.mark.kind != .text) = true := by
    cases hd : d.mark.kind <;> simp_all [MarkKind.isSeries]
  rw [isSome_vertex?_eq_isPlaced, isPlaced, shows, htext, Bool.true_or, Bool.and_true]

/-- The mark of a series stands for the rows that are shown; if there is none, no row is shown. -/
theorem rows_seriesMark? {d : Drawing R} (hkind : d.mark.kind.isSeries = true)
    (rows : List (Row R)) :
    (d.seriesMark? rows).toList.flatMap (·.rows) = (rows.filter d.shows).map (·.key) := by
  have hkeys : (rows.filterMap fun row ↦ (d.vertex? row).map fun p ↦ (row.key, p)).map (·.1) =
      (rows.filter d.shows).map (·.key) := by
    rw [List.map_filterMap, List.filterMap_eq_flatMap_toList, map_filter_eq_flatMap]
    refine List.flatMap_congr fun row _ ↦ ?_
    rw [← isSome_vertex? hkind]
    cases d.vertex? row <;> rfl
  rw [← hkeys]
  unfold seriesMark?
  cases rows with
  | nil => rfl
  | cons first rest =>
      cases (first :: rest).filterMap fun row ↦ (d.vertex? row).map fun p ↦ (row.key, p) with
      | nil => simp
      | cons v vertices => simp [paint]

/-! ## All marks -/

/-- The marks of rows stand for those that are shown. -/
theorem rows_marksInOrder_perm (d : Drawing R) (rows : List (Row R)) :
    ((d.marksInOrder rows).flatMap (·.rows)).Perm ((rows.filter d.shows).map (·.key)) := by
  rw [marksInOrder]
  cases hkind : d.mark.kind.isSeries with
  | false =>
      rw [if_neg Bool.false_ne_true, rows_filterMap_markOf? hkind]
  | true =>
      rw [if_pos rfl, List.filterMap_eq_flatMap_toList, List.flatMap_assoc]
      have hgroups : ((groupBy d.seriesKey rows).flatMap fun group ↦
          (d.seriesMark? group.2).toList.flatMap (·.rows)) =
          (((groupBy d.seriesKey rows).flatMap (·.2)).filter d.shows).map (·.key) := by
        rw [List.filter_flatMap, List.map_flatMap]
        exact List.flatMap_congr fun group _ ↦ rows_seriesMark? hkind group.2
      rw [hgroups]
      exact ((groupBy_perm d.seriesKey rows).filter d.shows).map _

/-- The marks of a plot stand for the rows that are shown, and for each of them once. -/
theorem rows_marks_perm {d : Drawing R} {rows : List (Row R)} {marks : List (Mark R)}
    (h : d.marks rows = .ok marks) :
    (marks.flatMap (·.rows)).Perm ((rows.filter d.shows).map (·.key)) := by
  obtain ⟨-, -, h⟩ := bind_ok_iff.mp h
  rw [← Except.ok.inj h]
  refine (rows_marksInOrder_perm d _).trans (List.Perm.map _ ?_)
  exact (d.encodings.drawOrder_perm rows).filter d.shows

end Drawing

end Charting
