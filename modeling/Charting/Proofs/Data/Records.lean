import Charting.Numeric.Exact
import Charting.Proofs.Data.Rectangular
import Charting.Proofs.Json.Members

/-!
# Tables of records

Records are read twice, once for the names of the columns and once for the rows, and both passes
share an index of names.  The index is right as long as it tells of every name where the list of
columns has it (`Columns.Indexes`).  One more name keeps it so, and then the reading of each member
goes into the column of its name and into no other (`Columns.getElem?_place`).  Hence records become
the table that they should become, or it is said which of them is the first that is no object
(`Dataset.ofRecords_isTable`).
-/

namespace Charting

variable {R : Type}

/-! ## First appearance -/

/-- Names in the order of first appearance: those of a list that may repeat them, each of them
once. -/
structure IsFirstSeen (seen names : List String) : Prop where
  /-- No name is listed twice. -/
  nodup : names.Nodup
  /-- No name is lost and none is new. -/
  mem_iff {name : String} : name ∈ names ↔ name ∈ seen
  /-- What appears first comes first. -/
  pairwise : names.Pairwise fun a b ↦ seen.idxOf a < seen.idxOf b

namespace IsFirstSeen

variable {seen names : List String} {name : String}

theorem nil : IsFirstSeen [] [] := ⟨.nil, .rfl, .nil⟩

/-- More names at the end do not change where the others appear first. -/
private theorem pairwise_append (h : IsFirstSeen seen names) (more : List String) :
    names.Pairwise fun a b ↦ (seen ++ more).idxOf a < (seen ++ more).idxOf b := by
  refine h.pairwise.imp_of_mem fun {a b} ha hb hab ↦ ?_
  rw [List.idxOf_append_of_mem (h.mem_iff.mp ha), List.idxOf_append_of_mem (h.mem_iff.mp hb)]
  exact hab

/-- A name that has been seen before is not listed again. -/
theorem concat_of_mem (h : IsFirstSeen seen names) (hname : name ∈ seen) :
    IsFirstSeen (seen ++ [name]) names where
  nodup := h.nodup
  mem_iff {other} := by
    rw [h.mem_iff, List.mem_append, List.mem_singleton]
    exact ⟨.inl, fun hother ↦ hother.elim id fun heq ↦ heq ▸ hname⟩
  pairwise := h.pairwise_append [name]

/-- A name that has not been seen before is listed at the end. -/
theorem concat_of_notMem (h : IsFirstSeen seen names) (hname : name ∉ seen) :
    IsFirstSeen (seen ++ [name]) (names ++ [name]) where
  nodup := by
    rw [List.nodup_append]
    refine ⟨h.nodup, List.nodup_singleton _, fun a ha b hb ↦ ?_⟩
    rw [List.mem_singleton.mp hb]
    exact fun heq ↦ hname (heq ▸ h.mem_iff.mp ha)
  mem_iff {other} := by rw [List.mem_append, List.mem_append, h.mem_iff]
  pairwise := by
    refine List.pairwise_append.mpr ⟨h.pairwise_append [name], List.pairwise_singleton _ _, ?_⟩
    intro a ha b hb
    have ha : a ∈ seen := h.mem_iff.mp ha
    rw [List.mem_singleton.mp hb, List.idxOf_append_of_mem ha, List.idxOf_append_of_notMem hname]
    exact Nat.lt_add_right _ (List.idxOf_lt_length_of_mem ha)

end IsFirstSeen

/-! ## Columns -/

/-- The names of the members of an object, in order. -/
def Json.names (j : Json R) : List String := (j.members?.getD []).map (·.1)

namespace Columns

variable {c c' : Columns} {seen : List String} {n : Nat}

/-- Columns stand for all names that have been seen: these are listed in the order of first
appearance, and the index says of each of them where it is listed. -/
structure Indexes (c : Columns) (seen : List String) : Prop where
  /-- The names are listed in the order of first appearance. -/
  isFirstSeen : IsFirstSeen seen c.names
  /-- The index agrees with the list. -/
  lookup_eq_some_iff {name : String} {i : Nat} :
    c.positions.lookup name = some i ↔ c.names[i]? = some name

theorem indexes_empty : empty.Indexes [] where
  isFirstSeen := .nil
  lookup_eq_some_iff := by simp [empty]

/-- An element of a list with one more element at the end is this one or another one. -/
theorem getElem?_concat_eq_some_iff {α : Type} {xs : List α} {x y : α} {i : Nat} :
    (xs ++ [x])[i]? = some y ↔ xs[i]? = some y ∨ i = xs.length ∧ y = x := by
  rcases Nat.lt_trichotomy i xs.length with hi | rfl | hi
  · simp [List.getElem?_append_left hi, Nat.ne_of_lt hi]
  · simp [eq_comm]
  · have hlength : (xs ++ [x]).length ≤ i := by
      rw [List.length_append]
      exact hi
    simp [List.getElem?_eq_none hlength, List.getElem?_eq_none (Nat.le_of_lt hi), Nat.ne_of_gt hi]

namespace Indexes

/-- The index knows the names that have been seen and no others. -/
theorem lookup_eq_none_iff (h : c.Indexes seen) {name : String} :
    c.positions.lookup name = none ↔ name ∉ seen := by
  rw [← h.isFirstSeen.mem_iff, List.mem_iff_getElem?, Option.eq_none_iff_forall_not_mem]
  simp only [Option.mem_def, h.lookup_eq_some_iff, not_exists]

/-- One more name keeps the list and the index together. -/
theorem add (h : c.Indexes seen) (name : String) : (c.add name).Indexes (seen ++ [name]) := by
  rw [Columns.add]
  cases hlookup : c.positions.lookup name with
  | some i =>
      have hname : name ∈ seen := by
        rw [← h.isFirstSeen.mem_iff]
        exact List.mem_of_getElem? (h.lookup_eq_some_iff.mp hlookup)
      exact ⟨h.isFirstSeen.concat_of_mem hname, h.lookup_eq_some_iff⟩
  | none =>
      have hname : name ∉ seen := h.lookup_eq_none_iff.mp hlookup
      have hfresh : ∀ i, c.names[i]? ≠ some name := fun i hi ↦
        hname (h.isFirstSeen.mem_iff.mp (List.mem_of_getElem? hi))
      refine ⟨h.isFirstSeen.concat_of_notMem hname, fun {other i} ↦ ?_⟩
      rw [List.lookup_cons, getElem?_concat_eq_some_iff]
      by_cases hother : other = name
      · subst hother
        simp [hfresh i, eq_comm]
      · rw [beq_false_of_ne hother]
        simp [hother, h.lookup_eq_some_iff]

theorem foldl_add (h : c.Indexes seen) (names : List String) :
    (names.foldl Columns.add c).Indexes (seen ++ names) := by
  induction names generalizing c seen with
  | nil =>
      rw [List.append_nil]
      exact h
  | cons name names ih =>
      have hrest := ih (h.add name)
      rwa [List.append_assoc] at hrest

end Indexes

/-! ### Reading the names -/

/-- One more record has to be an object, and then its names are added. -/
theorem addRecord_ok_iff {record : Json R} :
    c.addRecord (record, n) = .ok c' ↔ record.IsObject ∧ c' = record.names.foldl add c := by
  cases record with
  | object members =>
      have hobject : (Json.object members).IsObject := ⟨members, rfl⟩
      simp [addRecord, Json.members?, Json.names, hobject, eq_comm]
  | _ => simp [addRecord, Json.members?, Json.IsObject]

theorem addRecord_error_iff {record : Json R} {e : DataError} :
    c.addRecord (record, n) = .error e ↔ ¬record.IsObject ∧ e = .invalidRecord n := by
  cases record with
  | object members =>
      have hobject : (Json.object members).IsObject := ⟨members, rfl⟩
      simp [addRecord, Json.members?, hobject]
  | _ => simp [addRecord, Json.members?, Json.IsObject, eq_comm]

/-- Records that are all objects have the columns of all their names. -/
theorem foldlM_addRecord_ok_iff {records : List (Json R)} :
    (records.zipIdx n).foldlM addRecord c = .ok c' ↔
      (∀ record ∈ records, record.IsObject) ∧ c' = (records.flatMap Json.names).foldl add c := by
  induction records generalizing c n with
  | nil => simp [pure, Except.pure, eq_comm]
  | cons record records ih =>
      rw [List.zipIdx_cons, List.foldlM_cons, bind_ok_iff, List.forall_mem_cons,
        List.flatMap_cons, List.foldl_append]
      simp only [addRecord_ok_iff, ih]
      constructor
      · rintro ⟨_, ⟨hrecord, rfl⟩, hrecords, rfl⟩
        exact ⟨⟨hrecord, hrecords⟩, rfl⟩
      · rintro ⟨⟨hrecord, hrecords⟩, rfl⟩
        exact ⟨_, ⟨hrecord, rfl⟩, hrecords, rfl⟩

/-- Records are refused for the first of them that is no object. -/
theorem foldlM_addRecord_error_iff {records : List (Json R)} {e : DataError} :
    (records.zipIdx n).foldlM addRecord c = .error e ↔
      ∃ before record after, records = before ++ record :: after ∧
        (∀ r ∈ before, r.IsObject) ∧ ¬record.IsObject ∧ e = .invalidRecord (n + before.length) := by
  induction records generalizing c n with
  | nil => simp [pure, Except.pure]
  | cons record records ih =>
      rw [List.zipIdx_cons, List.foldlM_cons, bind_error_iff]
      simp only [addRecord_ok_iff, addRecord_error_iff, ih]
      constructor
      · rintro (⟨hrecord, rfl⟩ | ⟨_, ⟨hrecord, -⟩, before, r, after, rfl, hbefore, hr, rfl⟩)
        · exact ⟨[], record, records, rfl, List.forall_mem_nil _, hrecord, rfl⟩
        · have hcons := List.forall_mem_cons.mpr ⟨hrecord, hbefore⟩
          refine ⟨record :: before, r, after, rfl, hcons, hr, ?_⟩
          rw [List.length_cons, Nat.add_right_comm, Nat.add_assoc]
      · rintro ⟨before, r, after, hsplit, hbefore, hr, rfl⟩
        cases before with
        | nil =>
            obtain ⟨rfl, -⟩ := List.cons.inj hsplit
            exact .inl ⟨hr, rfl⟩
        | cons _ before =>
            obtain ⟨rfl, rfl⟩ := List.cons.inj hsplit
            obtain ⟨hrecord, hbefore⟩ := List.forall_mem_cons.mp hbefore
            refine .inr ⟨_, ⟨hrecord, rfl⟩, before, r, after, rfl, hbefore, hr, ?_⟩
            rw [List.length_cons, Nat.add_right_comm, Nat.add_assoc]

/-! ### Reading the values -/

section Rows

variable [Scalar R] {record : Json R} {members : List (String × Json R)} {values : List (Value R)}

@[simp] theorem length_place (m : String × Json R) :
    (c.place values m).length = values.length := by
  rw [place]
  split
  · exact List.length_set
  · rfl

@[simp] theorem length_foldl_place : (members.foldl c.place values).length = values.length := by
  induction members generalizing values with
  | nil => rfl
  | cons m members ih => rw [List.foldl_cons, ih, length_place]

@[simp] theorem length_row : (c.row record).length = c.names.length := by
  rw [row, length_foldl_place, List.length_replicate]

variable (h : c.Indexes seen) {column : Nat} {name : String}
  (hname : c.names[column]? = some name)

include h hname

/-- The reading of a member goes into the column of its name and into no other. -/
theorem getElem?_place (hcolumn : column < values.length) (m : String × Json R) :
    (c.place values m)[column]? =
      if m.1 = name then some (.ofJson m.2) else values[column]? := by
  rw [place]
  split
  case h_1 i hlookup =>
    have hi : c.names[i]? = some m.1 := h.lookup_eq_some_iff.mp hlookup
    have hiff : i = column ↔ m.1 = name := by
      constructor
      · rintro rfl
        exact Option.some.inj (hi.symm.trans hname)
      · intro heq
        have hlt : i < c.names.length := (List.getElem?_eq_some_iff.mp hi).1
        exact (List.getElem?_inj hlt h.isFirstSeen.nodup).mp (hi.trans (heq ▸ hname.symm))
    rw [List.getElem?_set]
    simp only [hiff]
    split
    case isTrue heq => rw [if_pos (hiff.mpr heq ▸ hcolumn)]
    case isFalse => rfl
  case h_2 hlookup =>
    rw [if_neg]
    intro heq
    have hsome : c.positions.lookup m.1 = some column := h.lookup_eq_some_iff.mpr (heq ▸ hname)
    rw [hsome] at hlookup
    cases hlookup

/-- Members of other names leave a column as it is. -/
theorem getElem?_foldl_place (hcolumn : column < values.length)
    (hmembers : name ∉ members.map (·.1)) :
    (members.foldl c.place values)[column]? = values[column]? := by
  induction members generalizing values with
  | nil => rfl
  | cons m members ih =>
      rw [List.map_cons, List.mem_cons, not_or] at hmembers
      rw [List.foldl_cons, ih (hcolumn.trans_eq (length_place m).symm) hmembers.2,
        getElem?_place h hname hcolumn, if_neg (Ne.symm hmembers.1)]

/-- In the column of a name that a record has is the reading of its last member of this name. -/
theorem getElem?_row_of_last {before after : List (String × Json R)} {j : Json R}
    (hafter : name ∉ after.map (·.1)) :
    (c.row (.object (before ++ (name, j) :: after)))[column]? = some (.ofJson j) := by
  have hcolumn : column < c.names.length := (List.getElem?_eq_some_iff.mp hname).1
  rw [row, Json.members?, Option.getD_some, List.foldl_append, List.foldl_cons,
    getElem?_foldl_place h hname (by simpa using hcolumn) hafter,
    getElem?_place h hname (by simpa using hcolumn), if_pos rfl]

/-- In the column of a name that a record does not have is nothing. -/
theorem getElem?_row_of_notMem (hrecord : name ∉ record.names) :
    (c.row record)[column]? = some .null := by
  have hcolumn : column < c.names.length := (List.getElem?_eq_some_iff.mp hname).1
  rw [row, getElem?_foldl_place h hname (by simpa using hcolumn) hrecord,
    List.getElem?_replicate, if_pos hcolumn]

end Rows

end Columns

namespace Dataset

/-! ## Tables -/

/-- The columns of all names that occur in records. -/
def columnsOf (records : List (Json R)) : Columns :=
  (records.flatMap Json.names).foldl Columns.add .empty

theorem indexes_columnsOf (records : List (Json R)) :
    (columnsOf records).Indexes (records.flatMap Json.names) :=
  Columns.indexes_empty.foldl_add _

/-- A name of a column finds this column, in every row. -/
theorem exists_get?_ofRows {names : List String} {name : String} (hname : name ∈ names)
    (rows : List (List (Value R))) : ∃ column : Nat, names[column]? = some name ∧
      ∀ i values, rows[i]? = some values →
        (ofRows (names.map .untyped) rows).get? i name = values[column]? := by
  have hfound : ∃ column, names.findIdx? (· == name) = some column := by
    rw [← Option.isSome_iff_exists, List.findIdx?_isSome]
    exact List.any_eq_true.mpr ⟨name, hname, beq_self_eq_true name⟩
  obtain ⟨column, hcolumn⟩ := hfound
  obtain ⟨hlt, heq, -⟩ := List.findIdx?_eq_some_iff_getElem.mp hcolumn
  refine ⟨column, List.getElem?_eq_some_iff.mpr ⟨hlt, eq_of_beq heq⟩, fun i values hvalues ↦ ?_⟩
  have hindex : (ofRows (names.map .untyped) rows).columnIndex? name = some column := by
    rw [columnIndex?, ofRows, List.findIdx?_map]
    exact hcolumn
  rw [get?, hindex, Option.bind_some, value?, ofRows, List.getElem?_map, List.getElem?_zipIdx,
    hvalues]
  rfl

variable [Scalar R] {records : List (Json R)} {data : Dataset R}

/-- The rows of records can all be added. -/
private theorem foldlM_push_row (records : List (Json R)) :
    records.foldlM (fun data record ↦ do
      let (_, data) ← data.push ((columnsOf records).row record)
      .ok data) (empty ((columnsOf records).names.map .untyped)) =
    (.ok (ofRows ((columnsOf records).names.map .untyped)
      (records.map (columnsOf records).row)) : Except DataError (Dataset R)) :=
  foldlM_push_empty _ fun record _ ↦ by rw [Columns.length_row, List.length_map]

/-- Records become a dataset exactly if they are all objects, and then there is one row for each. -/
theorem ofRecords_ok_iff : ofRecords records = .ok data ↔
    (∀ record ∈ records, record.IsObject) ∧
      data = ofRows ((columnsOf records).names.map .untyped)
        (records.map (columnsOf records).row) := by
  rw [ofRecords, bind_ok_iff]
  simp only [Columns.ofRecords, Columns.foldlM_addRecord_ok_iff]
  constructor
  · rintro ⟨_, ⟨hobjects, rfl⟩, h⟩
    exact ⟨hobjects, Except.ok.inj (h.symm.trans (foldlM_push_row records))⟩
  · rintro ⟨hobjects, rfl⟩
    exact ⟨_, ⟨hobjects, rfl⟩, foldlM_push_row records⟩

/-- Records are refused for the first of them that is no object. -/
theorem ofRecords_error_iff {e : DataError} : ofRecords records = .error e ↔
    ∃ before record after, records = before ++ record :: after ∧
      (∀ r ∈ before, r.IsObject) ∧ ¬record.IsObject ∧ e = .invalidRecord before.length := by
  rw [ofRecords, bind_error_iff, or_iff_left]
  · rw [Columns.ofRecords, Columns.foldlM_addRecord_error_iff]
    simp only [Nat.zero_add]
  · rintro ⟨columns, hcolumns, h⟩
    obtain ⟨-, rfl⟩ := Columns.foldlM_addRecord_ok_iff.mp hcolumns
    cases h.symm.trans (foldlM_push_row records)

/-- What the dataset of some objects is. -/
structure IsTableOf (data : Dataset R) (records : List (Json R)) : Prop where
  /-- The fields are the names of the members, in order of first appearance. -/
  isFirstSeen : IsFirstSeen (records.flatMap Json.names) (data.fields.map (·.name))
  /-- Nothing else is known of a field. -/
  eq_untyped {f : Field} : f ∈ data.fields → f = .untyped f.name
  /-- Rows have their positions as keys. -/
  keys_eq : data.keys = List.range records.length
  /-- The next row will have its position as key. -/
  nextKey_eq : data.nextKey = records.length
  /-- Every row has one value per field. -/
  isRectangular : data.IsRectangular
  /-- A member is read in the row of its record and the column of its name.  If a record repeats a
  name then the last member counts. -/
  get?_member {i : Nat} {before after : List (String × Json R)} {name : String} {j : Json R} :
    records[i]? = some (.object (before ++ (name, j) :: after)) → name ∉ after.map (·.1) →
      data.get? i name = some (.ofJson j)
  /-- A name that other records have but this one has not stands for a missing value. -/
  get?_missing {i : Nat} {record : Json R} {name : String} :
    records[i]? = some record → name ∉ record.names → name ∈ records.flatMap Json.names →
      data.get? i name = some .null

/-- Objects become the table that they should become. -/
theorem isTableOf_ofRecords (h : ofRecords records = .ok data) : data.IsTableOf records := by
  have hcolumns := indexes_columnsOf records
  have hrectangular := isRectangular_ofRecords h
  obtain ⟨-, rfl⟩ := ofRecords_ok_iff.mp h
  have hnames : ((columnsOf records).names.map Field.untyped).map (·.name) =
      (columnsOf records).names := by
    rw [List.map_map]
    exact List.map_id _
  have hget : ∀ name ∈ records.flatMap Json.names, ∃ column : Nat,
      (columnsOf records).names[column]? = some name ∧ ∀ i record, records[i]? = some record →
        (ofRows ((columnsOf records).names.map .untyped)
          (records.map (columnsOf records).row)).get? i name =
            ((columnsOf records).row record)[column]? := by
    intro name hname
    obtain ⟨column, hcolumn, hrows⟩ := exists_get?_ofRows
      (hcolumns.isFirstSeen.mem_iff.mpr hname) (records.map (columnsOf records).row)
    refine ⟨column, hcolumn, fun i record hrecord ↦ hrows i _ ?_⟩
    rw [List.getElem?_map, hrecord, Option.map_some]
  refine
    { isFirstSeen := ?_
      eq_untyped := ?_
      keys_eq := (keys_ofRows _ _).trans (congrArg _ (List.length_map _))
      nextKey_eq := List.length_map _
      isRectangular := hrectangular
      get?_member := ?_
      get?_missing := ?_ }
  · rw [ofRows, hnames]
    exact hcolumns.isFirstSeen
  · intro f hf
    obtain ⟨name, -, rfl⟩ := List.mem_map.mp hf
    rfl
  · intro i before after name j hrecord hafter
    have hname : name ∈ records.flatMap Json.names := by
      refine List.mem_flatMap.mpr ⟨_, List.mem_of_getElem? hrecord, ?_⟩
      simp [Json.names, Json.members?]
    obtain ⟨column, hcolumn, hrows⟩ := hget name hname
    rw [hrows i _ hrecord, Columns.getElem?_row_of_last hcolumns hcolumn hafter]
  · intro i record name hrecord hlacks hname
    obtain ⟨column, hcolumn, hrows⟩ := hget name hname
    rw [hrows i _ hrecord, Columns.getElem?_row_of_notMem hcolumns hcolumn hlacks]

/-- Records become the table that they should become, if they are all objects; else it is said which
of them is the first that is no object. -/
theorem ofRecords_isTable (records : List (Json R)) :
    (∀ e, ofRecords records = .error e ↔
      ∃ before record after, records = before ++ record :: after ∧
        (∀ r ∈ before, r.IsObject) ∧ ¬record.IsObject ∧ e = .invalidRecord before.length) ∧
    ((∃ data, ofRecords records = .ok data) ↔ ∀ record ∈ records, record.IsObject) ∧
    ∀ data, ofRecords records = .ok data → data.IsTableOf records := by
  refine ⟨fun e ↦ ofRecords_error_iff, ?_, fun data ↦ isTableOf_ofRecords⟩
  constructor
  · rintro ⟨data, h⟩
    exact (ofRecords_ok_iff.mp h).1
  · exact fun hobjects ↦ ⟨_, ofRecords_ok_iff.mpr ⟨hobjects, rfl⟩⟩

/-! ### Boats

Two boats are described by other names each, and a number is no boat. -/

/-- A boat with masts and a boat with oars. -/
def boats : List (Json Rat) :=
  [.object [("masts", .integer 2), ("name", .string "Ada")],
    .object [("name", .string "Bo"), ("oars", .bool true)]]

/-- The second boat has a column for masts, in which nothing stands, and one for its oars.  With a
number after them, boats are refused. -/
theorem ofRecords_isTable_boats :
    (∃ data, ofRecords boats = .ok data ∧ data.keys = [0, 1] ∧
      data.get? 1 "masts" = some .null ∧ data.get? 1 "oars" = some (.string "true")) ∧
    ofRecords (boats ++ [.integer 3]) = .error (.invalidRecord 2) := by
  have hobjects : ∀ record ∈ boats, record.IsObject := by simp [boats, Json.IsObject]
  obtain ⟨-, hok, htable⟩ := ofRecords_isTable boats
  obtain ⟨data, hdata⟩ := hok.mpr hobjects
  have h := htable data hdata
  have hsecond : boats[1]? =
      some (.object ([("name", .string "Bo")] ++ ("oars", .bool true) :: [])) := rfl
  refine ⟨⟨data, hdata, h.keys_eq, ?_, ?_⟩, ?_⟩
  · exact h.get?_missing hsecond (by decide) (by decide)
  · exact h.get?_member hsecond (List.not_mem_nil)
  · refine ((ofRecords_isTable (boats ++ [.integer 3])).1 _).mpr ?_
    exact ⟨boats, .integer 3, [], rfl, hobjects, by simp [Json.IsObject], rfl⟩

end Dataset

end Charting
