import Charting.Proofs.Data.Records

/-!
# Keys and the history of a dataset

A dataset comes from an empty one or from records by adding rows, filtering and selecting
(`Dataset.Chain`).  Rows are dropped and put in another order on the way, but the next key only
grows, and every key that has ever been handed out is below it (`Dataset.KeepsKeys`).  Each step
keeps this, and so a key stands for one row throughout a history
(`Dataset.Chain.keys_tell_rows_apart`).
-/

namespace Charting

variable {R : Type}

namespace Dataset

/-! ## Selections -/

/-- Selected rows have the keys at their positions. -/
theorem keys_select (data : Dataset R) (positions : List Nat) :
    (data.select positions).keys = positions.filterMap (data.keys[·]?) := by
  rw [keys, select, List.map_filterMap]
  exact List.filterMap_congr fun i _ ↦ List.getElem?_map.symm

theorem rows_select_subset (data : Dataset R) (positions : List Nat) :
    (data.select positions).rows ⊆ data.rows := by
  intro row hrow
  obtain ⟨i, -, hi⟩ := List.mem_filterMap.mp hrow
  exact List.mem_of_getElem? hi

/-- Rows at different positions have different keys if all rows have. -/
theorem nodup_keys_select {data : Dataset R} (h : data.keys.Nodup) {positions : List Nat}
    (hpositions : positions.Nodup) : (data.select positions).keys.Nodup := by
  rw [keys_select]
  refine hpositions.filterMap fun i j key hi hj ↦ ?_
  obtain ⟨hlt, -⟩ := List.getElem?_eq_some_iff.mp hi
  exact (List.getElem?_inj hlt h).mp (hi.trans hj.symm)

/-! ## Histories -/

/-- What is known of the keys of a dataset, given the datasets that it has come from and the rows
that have been added. -/
structure KeepsKeys (earlier : List (Dataset R)) (added : List (Row R)) (data : Dataset R) :
    Prop where
  /-- Every row has one value per field. -/
  isRectangular : data.IsRectangular
  /-- No two rows have the same key. -/
  nodup_keys : data.keys.Nodup
  /-- Every row is as it was added. -/
  rows_subset : data.rows ⊆ added
  /-- Rows have been added with greater and greater keys. -/
  pairwise_added : (added.map (·.key)).Pairwise (· < ·)
  /-- The next key is greater than those of all rows that have been added. -/
  lt_nextKey {row : Row R} : row ∈ added → row.key < data.nextKey
  /-- The next key is greater than those of all rows of earlier datasets. -/
  lt_nextKey_of_earlier {d : Dataset R} : d ∈ earlier → ∀ key ∈ d.keys, key < data.nextKey

namespace KeepsKeys

variable {earlier : List (Dataset R)} {added : List (Row R)} {data part : Dataset R}

/-- The keys of a dataset are below its next key. -/
theorem key_lt_nextKey (h : KeepsKeys earlier added data) :
    ∀ key ∈ data.keys, key < data.nextKey := by
  intro key hkey
  obtain ⟨row, hrow, rfl⟩ := List.mem_map.mp hkey
  exact h.lt_nextKey (h.rows_subset hrow)

/-- The next key is new to a dataset and to all earlier ones. -/
theorem nextKey_notMem (h : KeepsKeys earlier added data) :
    ∀ d ∈ data :: earlier, data.nextKey ∉ d.keys := by
  refine List.forall_mem_cons.mpr ⟨fun hkey ↦ ?_, fun d hd hkey ↦ ?_⟩
  · exact Nat.lt_irrefl _ (h.key_lt_nextKey _ hkey)
  · exact Nat.lt_irrefl _ (h.lt_nextKey_of_earlier hd _ hkey)

/-- Adding a row moves the next key past the key of the row. -/
theorem withRow (h : KeepsKeys earlier added data) {values : List (Value R)}
    (hlength : values.length = data.fields.length) :
    KeepsKeys (data :: earlier) (added ++ [⟨data.nextKey, values⟩]) (data.withRow values) where
  isRectangular := h.isRectangular.withRow hlength
  nodup_keys := by
    rw [keys_withRow, List.nodup_append]
    refine ⟨h.nodup_keys, List.nodup_singleton _, fun key hkey key' hkey' ↦ ?_⟩
    rw [List.mem_singleton.mp hkey']
    exact Nat.ne_of_lt (h.key_lt_nextKey key hkey)
  rows_subset := List.append_subset.mpr
    ⟨fun row hrow ↦ List.mem_append_left _ (h.rows_subset hrow), List.subset_append_right _ _⟩
  pairwise_added := by
    rw [List.map_append, List.pairwise_append]
    refine ⟨h.pairwise_added, List.pairwise_singleton _ _, fun key hkey key' hkey' ↦ ?_⟩
    obtain ⟨row, hrow, rfl⟩ := List.mem_map.mp hkey
    rw [List.mem_singleton.mp hkey']
    exact h.lt_nextKey hrow
  lt_nextKey {row} hrow := by
    rcases List.mem_append.mp hrow with hrow | hrow
    · exact Nat.lt_succ_of_lt (h.lt_nextKey hrow)
    · rw [List.mem_singleton.mp hrow]
      exact Nat.lt_succ_self _
  lt_nextKey_of_earlier {d} hd key hkey := by
    rcases List.mem_cons.mp hd with rfl | hd
    · exact Nat.lt_succ_of_lt (h.key_lt_nextKey key hkey)
    · exact Nat.lt_succ_of_lt (h.lt_nextKey_of_earlier hd key hkey)

/-- Some of the rows, in any order, keep their keys, and the next key stays what it was. -/
theorem ofSubset (h : KeepsKeys earlier added data) (hfields : part.fields = data.fields)
    (hrows : part.rows ⊆ data.rows) (hkeys : part.keys.Nodup)
    (hnextKey : part.nextKey = data.nextKey) : KeepsKeys (data :: earlier) added part where
  isRectangular row hrow := by
    rw [hfields]
    exact h.isRectangular row (hrows hrow)
  nodup_keys := hkeys
  rows_subset := List.Subset.trans hrows h.rows_subset
  pairwise_added := h.pairwise_added
  lt_nextKey hrow := hnextKey ▸ h.lt_nextKey hrow
  lt_nextKey_of_earlier {d} hd key hkey := by
    rw [hnextKey]
    rcases List.mem_cons.mp hd with rfl | hd
    · exact h.key_lt_nextKey key hkey
    · exact h.lt_nextKey_of_earlier hd key hkey

end KeepsKeys

variable [Scalar R]

/-- How a dataset has come about: the datasets that it has come from, the latest one first, and the
rows that have been added, in order. -/
inductive Chain : List (Dataset R) → List (Row R) → Dataset R → Prop
  /-- A dataset is empty at first. -/
  | empty (fields : List Field) : Chain [] [] (.empty fields)
  /-- A dataset is made from records, each of which is added as a row with its position as key. -/
  | ofRecords {records : List (Json R)} {data : Dataset R} (h : ofRecords records = .ok data) :
    Chain [] ((records.map (columnsOf records).row).zipIdx.map fun (values, i) ↦ ⟨i, values⟩) data
  /-- A row is added in place. -/
  | append {earlier added data data' values key} (h : Chain earlier added data)
      (happend : data.append values = (.ok key, data')) :
    Chain (data :: earlier) (added ++ [⟨key, values⟩]) data'
  /-- A row is refused. -/
  | refuse {earlier added data data' values e} (h : Chain earlier added data)
      (happend : data.append values = (.error e, data')) : Chain (data :: earlier) added data'
  /-- A row is added to a copy. -/
  | push {earlier added data data' values key} (h : Chain earlier added data)
      (hpush : data.push values = .ok (key, data')) :
    Chain (data :: earlier) (added ++ [⟨key, values⟩]) data'
  /-- Rows are left out that do not pass a test. -/
  | filter {earlier added data part p params} (h : Chain earlier added data)
      (hfilter : data.filter p params = .ok part) : Chain (data :: earlier) added part
  /-- Rows at some different positions are taken, in any order. -/
  | select {earlier added data positions} (h : Chain earlier added data)
      (hpositions : positions.Nodup) : Chain (data :: earlier) added (data.select positions)

/-- The rows of records have been added with their positions as keys. -/
theorem keepsKeys_ofRecords {records : List (Json R)} {data : Dataset R}
    (h : ofRecords records = .ok data) :
    KeepsKeys [] ((records.map (columnsOf records).row).zipIdx.map fun (values, i) ↦ ⟨i, values⟩)
      data := by
  have htable := isTableOf_ofRecords h
  obtain ⟨-, heq⟩ := ofRecords_ok_iff.mp h
  have hrows : ((records.map (columnsOf records).row).zipIdx.map fun (values, i) ↦
      (⟨i, values⟩ : Row R)) = data.rows := heq ▸ rfl
  have hincreasing : data.keys.Pairwise (· < ·) := htable.keys_eq ▸ List.pairwise_lt_range
  rw [hrows]
  refine ⟨htable.isRectangular, hincreasing.imp fun hlt ↦ Nat.ne_of_lt hlt, List.Subset.refl _,
    hincreasing, fun {row} hrow ↦ ?_, nofun⟩
  have hkey : row.key ∈ List.range records.length := htable.keys_eq ▸ List.mem_map_of_mem hrow
  rw [htable.nextKey_eq]
  exact List.mem_range.mp hkey

namespace Chain

variable {earlier : List (Dataset R)} {added : List (Row R)} {data : Dataset R}

/-- Whatever has become of a dataset, its keys are known. -/
theorem keepsKeys (h : Chain earlier added data) : KeepsKeys earlier added data := by
  induction h with
  | empty fields =>
      exact ⟨List.forall_mem_nil _, .nil, List.nil_subset _, .nil, nofun, nofun⟩
  | ofRecords h => exact keepsKeys_ofRecords h
  | append _ happend ih =>
      obtain ⟨hlength, rfl, rfl⟩ := append_ok_iff.mp happend
      exact ih.withRow hlength
  | refuse _ happend ih =>
      obtain rfl := eq_of_append_error happend
      exact ih.ofSubset rfl (List.Subset.refl _) ih.nodup_keys rfl
  | push _ hpush ih =>
      obtain ⟨hlength, rfl, rfl⟩ := append_ok_iff.mp (push_ok_iff.mp hpush)
      exact ih.withRow hlength
  | filter _ hfilter ih =>
      have hpart := filter_isSelection hfilter
      exact ih.ofSubset hpart.fields_eq hpart.rows_sublist.subset
        (ih.nodup_keys.sublist (hpart.rows_sublist.map _)) hpart.nextKey_eq
  | select _ hpositions ih =>
      have hkeys := nodup_keys_select ih.nodup_keys hpositions
      exact ih.ofSubset rfl (rows_select_subset _ _) hkeys rfl

/-- Whatever has become of a dataset, different rows have different keys below the next one, one
value per field, and the keys and values with which they were added.  A filter leaves some of the
rows in order.  A row that is added gets a key that no row has had in any dataset before, and a row
that is refused changes nothing. -/
theorem keys_tell_rows_apart (h : Chain earlier added data) :
    data.keys.Nodup ∧ (∀ key ∈ data.keys, key < data.nextKey) ∧
    (∀ row ∈ data.rows, row.values.length = data.fields.length) ∧
    (data.rows ⊆ added ∧ (added.map (·.key)).Nodup) ∧
    (∀ p params part, data.filter p params = .ok part →
      part.keys.Sublist data.keys ∧ part.rows.Sublist data.rows) ∧
    (∀ values key data',
      data.append values = (.ok key, data') ∨ data.push values = .ok (key, data') →
        data'.rows = data.rows ++ [⟨key, values⟩] ∧ ∀ d ∈ data :: earlier, key ∉ d.keys) ∧
    ∀ values e data', data.append values = (.error e, data') → data' = data := by
  have hkeys := h.keepsKeys
  refine ⟨hkeys.nodup_keys, hkeys.key_lt_nextKey, hkeys.isRectangular,
    ⟨hkeys.rows_subset, hkeys.pairwise_added.imp fun hlt ↦ Nat.ne_of_lt hlt⟩,
    fun p params part hfilter ↦ ?_, fun values key data' hadd ↦ ?_, fun values e data' ↦
      eq_of_append_error⟩
  · have hpart := filter_isSelection hfilter
    exact ⟨hpart.rows_sublist.map _, hpart.rows_sublist⟩
  · obtain ⟨-, rfl, rfl⟩ := append_ok_iff.mp (hadd.elim id push_ok_iff.mp)
    exact ⟨rfl, hkeys.nextKey_notMem⟩

/-- The boats that are in a harbour, by key and name.  Only the first boat has masts and only the
second one has oars. -/
def harbour (members : List (Nat × String)) (nextKey : Nat) : Dataset Rat where
  fields := [.untyped "masts", .untyped "name", .untyped "oars"]
  rows := members.map fun (key, name) ↦
    ⟨key, [if key = 0 then .number 2 else .null, .string name,
      if key = 1 then .string "true" else .null]⟩
  nextKey := nextKey

/-- Two boats are there at first, a third one comes, the second one leaves, a fourth one comes, a
row without values is refused, and the last boat is put before the first one. -/
theorem keys_tell_rows_apart_boats :
    ∃ earlier added, Chain earlier added (harbour [(3, "Dee"), (0, "Ada")] 4) ∧
      earlier.length = 5 ∧ added.map (·.key) = [0, 1, 2, 3] ∧
      (harbour [(3, "Dee"), (0, "Ada")] 4).keys.Nodup ∧
      (∀ data', (harbour [(3, "Dee"), (0, "Ada")] 4).append [.null, .string "Eve", .null] =
        (.ok 4, data') → ∀ d ∈ earlier, 4 ∉ d.keys) := by
  have hrecords : Dataset.ofRecords boats = .ok (harbour [(0, "Ada"), (1, "Bo")] 2) := by
    decide +kernel
  have hthird : (harbour [(0, "Ada"), (1, "Bo")] 2).append [.null, .string "Cy", .null] =
      (.ok 2, harbour [(0, "Ada"), (1, "Bo"), (2, "Cy")] 3) := rfl
  have hleave : (harbour [(0, "Ada"), (1, "Bo"), (2, "Cy")] 3).filter
      (.compare "name" .ne (.value (.string "Bo"))) (fun _ ↦ none) =
        .ok (harbour [(0, "Ada"), (2, "Cy")] 3) := by decide +kernel
  have hfourth : (harbour [(0, "Ada"), (2, "Cy")] 3).push [.null, .string "Dee", .null] =
      .ok (3, harbour [(0, "Ada"), (2, "Cy"), (3, "Dee")] 4) := rfl
  have hrefuse : (harbour [(0, "Ada"), (2, "Cy"), (3, "Dee")] 4).append [] =
      (.error (.arityMismatch 3 0), harbour [(0, "Ada"), (2, "Cy"), (3, "Dee")] 4) := rfl
  have h := (((((Chain.ofRecords hrecords).append hthird).filter hleave).push hfourth).refuse
    hrefuse).select (show [2, 0].Nodup by decide)
  obtain ⟨hnodup, -, -, -, -, hfresh, -⟩ := keys_tell_rows_apart h
  refine ⟨_, _, h, rfl, rfl, hnodup, fun data' hdata' d hd ↦ ?_⟩
  exact (hfresh _ _ _ (.inl hdata')).2 d (List.mem_cons_of_mem _ hd)

end Chain

end Dataset

end Charting
