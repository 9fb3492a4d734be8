import Charting.Data.Dataset
import Charting.Proofs.Success

/-!
# Rows that are added

A row that is added gets the next key and goes to the end; one that does not have one value per
field is refused, and the dataset stays as it was (`Dataset.append_cases`).  Hence rows that are
added one after another have consecutive keys (`Dataset.foldlM_push`).
-/

namespace Charting

variable {R : Type}

namespace Dataset

/-- The dataset with one more row, which has the next key. -/
def withRow (data : Dataset R) (values : List (Value R)) : Dataset R :=
  ⟨data.fields, data.rows ++ [⟨data.nextKey, values⟩], data.nextKey + 1⟩

theorem keys_withRow (data : Dataset R) (values : List (Value R)) :
    (data.withRow values).keys = data.keys ++ [data.nextKey] := List.map_append

theorem keys_ofRows (fields : List Field) (rows : List (List (Value R))) :
    (ofRows fields rows).keys = List.range rows.length := by
  rw [keys, ofRows, List.map_map, List.range_eq_range', ← List.zipIdx_map_snd]
  rfl

/-- A row with one value per field is added in place, and any other row leaves the dataset as it
was. -/
theorem append_cases (data : Dataset R) (values : List (Value R)) :
    values.length = data.fields.length ∧
        data.append values = (.ok data.nextKey, data.withRow values) ∨
      values.length ≠ data.fields.length ∧
        data.append values = (.error (.arityMismatch data.fields.length values.length), data) := by
  by_cases h : values.length = data.fields.length
  · exact .inl ⟨h, if_pos h⟩
  · exact .inr ⟨h, if_neg h⟩

/-- A row is added in place exactly if it has one value per field, and then gets the next key. -/
theorem append_ok_iff {data data' : Dataset R} {values : List (Value R)} {key : Nat} :
    data.append values = (.ok key, data') ↔
      values.length = data.fields.length ∧ key = data.nextKey ∧ data' = data.withRow values := by
  rcases append_cases data values with ⟨hlength, h⟩ | ⟨hlength, h⟩
  · simp [h, hlength, eq_comm]
  · simp [h, hlength]

/-- A row that is refused leaves the dataset as it was. -/
theorem eq_of_append_error {data data' : Dataset R} {values : List (Value R)} {e : DataError}
    (h : data.append values = (.error e, data')) : data' = data := by
  rcases append_cases data values with ⟨-, happend⟩ | ⟨-, happend⟩
  · rw [happend] at h
    cases h
  · rw [happend] at h
    exact (Prod.mk.inj h).2.symm

/-- A row is added to a copy as it is added in place. -/
theorem push_ok_iff {data data' : Dataset R} {values : List (Value R)} {key : Nat} :
    data.push values = .ok (key, data') ↔ data.append values = (.ok key, data') := by
  rcases append_cases data values with ⟨-, h⟩ | ⟨-, h⟩
  · simp [push, h]
  · simp [push, h]

/-- Rows that are added one after another have consecutive keys. -/
theorem foldlM_push {α : Type} (f : α → List (Value R)) {xs : List α} {data : Dataset R}
    (h : ∀ x ∈ xs, (f x).length = data.fields.length) :
    xs.foldlM (fun data x ↦ do
      let (_, data) ← data.push (f x)
      .ok data) data =
    (.ok ⟨data.fields, data.rows ++ ((xs.map f).zipIdx data.nextKey).map fun (values, i) ↦
      ⟨i, values⟩, data.nextKey + xs.length⟩ : Except DataError (Dataset R)) := by
  induction xs generalizing data with
  | nil => simp [pure, Except.pure]
  | cons x xs ih =>
      obtain ⟨hx, hxs⟩ := List.forall_mem_cons.mp h
      have hpush : data.push (f x) = .ok (data.nextKey, data.withRow (f x)) :=
        push_ok_iff.mpr (append_ok_iff.mpr ⟨hx, rfl, rfl⟩)
      have hrest : ∀ y ∈ xs, (f y).length = (data.withRow (f x)).fields.length := hxs
      rw [List.foldlM_cons, hpush]
      refine (ih hrest).trans ?_
      simp [withRow, Nat.add_right_comm, Nat.add_assoc, List.zipIdx_cons]

/-- Rows that are added to a dataset without rows have their positions as keys. -/
theorem foldlM_push_empty {α : Type} (f : α → List (Value R)) {xs : List α} {fields : List Field}
    (h : ∀ x ∈ xs, (f x).length = fields.length) :
    xs.foldlM (fun data x ↦ do
      let (_, data) ← data.push (f x)
      .ok data) (empty fields) =
    (.ok (ofRows fields (xs.map f)) : Except DataError (Dataset R)) := by
  have hlength : ∀ x ∈ xs, (f x).length = (empty fields : Dataset R).fields.length := h
  rw [foldlM_push f hlength]
  simp [empty, ofRows]

end Dataset

end Charting
