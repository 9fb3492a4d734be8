import Mathlib.Data.List.Lattice
import Mathlib.Data.List.Pairwise
import Charting.Proofs.Scene.Preparation

/-!
# The rows behind drawn rows

What is drawn are rows of prepared data, and marks are traced back to the rows of the original data
that these stand for.  Every row is behind exactly one drawn row: itself, or the row of its group
(`ViewSpec.IsDrawnAs`).
-/

namespace Charting

/-- Looking up a number in a numbered list finds what is at its position. -/
theorem lookup_zip_range' {α : Type} (start i : Nat) (xs : List α) :
    ((List.range' start xs.length).zip xs).lookup (start + i) = xs[i]? := by
  induction xs generalizing start i with
  | nil => rfl
  | cons x xs ih =>
      rw [List.length_cons, List.range'_succ, List.zip_cons_cons, List.lookup_cons]
      cases i with
      | zero => simp
      | succ i =>
          have hne : (start + (i + 1) == start) = false := beq_false_of_ne (by omega)
          have hshift : start + (i + 1) = start + 1 + i := by omega
          rw [hne, hshift, ih]
          rfl

/-- If nothing occurs twice in lists that are joined, then nothing occurs in two of them. -/
theorem eq_of_mem_of_nodup_flatMap {α β : Type} {f : α → List β} {xs : List α}
    (h : (xs.flatMap f).Nodup) {x y : α} (hx : x ∈ xs) (hy : y ∈ xs) {b : β} (hbx : b ∈ f x)
    (hby : b ∈ f y) : x = y := by
  by_contra hne
  have symm : Std.Symm (Function.onFun List.Disjoint f) := ⟨fun _ _ ↦ List.Disjoint.symm⟩
  exact (List.nodup_flatMap.mp h).2.forall hx hy hne hbx hby

variable {R : Type}

/-- The keys of the rows that some drawn rows stand for. -/
def PreparedView.keysBehind (p : PreparedView R) (rows : List (Row R)) : List Nat :=
  rows.flatMap fun row ↦ p.sourceKeys row.key

variable [Scalar R]

/-- A row is drawn as itself, or as the row of its group if the view asks for summaries. -/
def ViewSpec.IsDrawnAs (view : ViewSpec R) (data : Dataset R) (p : PreparedView R)
    (row drawn : Row R) : Prop :=
  if view.isAggregated then
    ∃ (i : Nat) (first : Row R), (data.firstRows view.groupNames)[i]? = some first ∧
      row ∈ data.group view.groupNames first ∧ p.data.rows[i]? = some drawn
  else drawn = row

namespace ViewSpec

variable {view : ViewSpec R} {data : Dataset R} {p : PreparedView R}

/-- The row of a group stands for the rows of the group. -/
theorem sourceKeys_of_isAggregated (h : view.prepare data = .ok p)
    (hview : view.isAggregated = true) {i : Nat} {first : Row R}
    (hfirst : (data.firstRows view.groupNames)[i]? = some first) :
    p.sourceKeys i = (data.group view.groupNames first).map (·.key) := by
  rcases prepare_ok h with ⟨hfalse, -⟩ | ⟨-, -, hdata, hsources⟩
  · rw [hview] at hfalse
    cases hfalse
  · have hlookup := lookup_zip_range' 0 i ((data.firstRows view.groupNames).map fun first ↦
      (data.group view.groupNames first).map (·.key))
    rw [List.length_map, Nat.zero_add, List.getElem?_map, hfirst] at hlookup
    rw [PreparedView.sourceKeys, hsources, hdata.keys_eq, List.range_eq_range']
    change (List.lookup i _).getD [] = _
    rw [hlookup]
    rfl

/-- The drawn rows stand for all rows, and for each of them once. -/
theorem keysBehind_perm (h : view.prepare data = .ok p) :
    (p.keysBehind p.data.rows).Perm data.keys := by
  rcases prepare_ok h with ⟨hview, rfl⟩ | ⟨hview, -, hdata, -⟩
  · exact .of_eq List.map_eq_flatMap.symm
  · have hgroups : p.keysBehind p.data.rows =
        ((data.firstRows view.groupNames).flatMap (data.group view.groupNames)).map (·.key) := by
      rw [PreparedView.keysBehind, hdata.rows_eq, List.flatMap_map, List.map_flatMap]
      conv_rhs => rw [← List.zipIdx_map_fst 0 (data.firstRows view.groupNames), List.flatMap_map]
      refine List.flatMap_congr fun ⟨first, i⟩ hfirst ↦ ?_
      exact sourceKeys_of_isAggregated h hview (List.mem_zipIdx_iff_getElem?.mp hfirst)
    rw [hgroups]
    exact (flatMap_peers_perm _ _).map _

/-- The drawn row of a row is the one that stands for it. -/
theorem isDrawnAs_iff (h : view.prepare data = .ok p) (distinct : data.keys.Nodup) {row : Row R}
    (hrow : row ∈ data.rows) {drawn : Row R} :
    view.IsDrawnAs data p row drawn ↔
      drawn ∈ p.data.rows ∧ row.key ∈ p.sourceKeys drawn.key := by
  have hinj : ∀ row' ∈ data.rows, row'.key = row.key → row' = row := fun row' hrow' heq ↦
    List.inj_on_of_nodup_map distinct hrow' hrow heq
  rw [IsDrawnAs]
  rcases prepare_ok h with ⟨hview, rfl⟩ | ⟨hview, -, hdata, -⟩
  · rw [hview, if_neg Bool.false_ne_true]
    constructor
    · rintro rfl
      exact ⟨hrow, List.mem_singleton.mpr rfl⟩
    · rintro ⟨hdrawn, hkey⟩
      exact hinj drawn hdrawn (List.mem_singleton.mp hkey).symm
  · rw [hview, if_pos rfl]
    constructor
    · rintro ⟨i, first, hfirst, hgroup, hdrawn⟩
      refine ⟨List.mem_of_getElem? hdrawn, ?_⟩
      rw [(hdata.key_eq_of_getElem? hdrawn).1, sourceKeys_of_isAggregated h hview hfirst]
      exact List.mem_map_of_mem hgroup
    · rintro ⟨hdrawn, hkey⟩
      obtain ⟨i, hi⟩ := List.mem_iff_getElem?.mp hdrawn
      obtain ⟨rfl, first, hfirst⟩ := hdata.key_eq_of_getElem? hi
      rw [sourceKeys_of_isAggregated h hview hfirst] at hkey
      obtain ⟨row', hrow', heq⟩ := List.mem_map.mp hkey
      obtain rfl : row' = row := hinj row' (List.mem_filter.mp hrow').1 heq
      exact ⟨drawn.key, first, hfirst, hrow', hi⟩

/-- Every row is drawn as some row. -/
theorem exists_isDrawnAs (h : view.prepare data = .ok p) (distinct : data.keys.Nodup)
    {row : Row R} (hrow : row ∈ data.rows) : ∃ drawn, view.IsDrawnAs data p row drawn := by
  have hkey : row.key ∈ p.keysBehind p.data.rows :=
    (keysBehind_perm h).mem_iff.mpr (List.mem_map_of_mem hrow)
  obtain ⟨drawn, hdrawn, hkey⟩ := List.mem_flatMap.mp hkey
  exact ⟨drawn, (isDrawnAs_iff h distinct hrow).mpr ⟨hdrawn, hkey⟩⟩

/-- No row is drawn as two rows. -/
theorem IsDrawnAs.unique (h : view.prepare data = .ok p) (distinct : data.keys.Nodup) {row : Row R}
    (hrow : row ∈ data.rows) {drawn drawn' : Row R} (hdrawn : view.IsDrawnAs data p row drawn)
    (hdrawn' : view.IsDrawnAs data p row drawn') : drawn = drawn' := by
  obtain ⟨hmem, hkey⟩ := (isDrawnAs_iff h distinct hrow).mp hdrawn
  obtain ⟨hmem', hkey'⟩ := (isDrawnAs_iff h distinct hrow).mp hdrawn'
  exact eq_of_mem_of_nodup_flatMap ((keysBehind_perm h).nodup_iff.mpr distinct) hmem hmem' hkey hkey'

end ViewSpec

end Charting
