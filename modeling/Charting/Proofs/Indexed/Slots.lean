import Charting.Data.Grouping
import Charting.Proofs.Indexed.Reads

/-!
# Slots

Groups are collected in a list, and a table tells for each key at which position of the list its
group is.  Table and list are kept apart, so that a position from the table could be past the end of
the list.  It never is: the table and the list are always those of one list of groups with their
keys (`Slots.Holds`), which changes as in `insertInGroup` when an element is put in
(`Slots.Holds.put_eq_ok`).
-/

namespace Charting.Indexed

variable {R α κ γ : Type} [DecidableEq κ]

/-- Groups with the positions that are known for their keys. -/
structure Slots (κ γ : Type) where
  /-- The position of the group of each key. -/
  table : List (κ × Nat)
  /-- The groups. -/
  groups : List γ

namespace Slots

/-- No groups yet. -/
def empty : Slots κ γ := ⟨[], []⟩

/-- The position of the group of a key; if there is none yet, a new group comes to the end. -/
def slot (s : Slots κ γ) (k : κ) (new : γ) : Nat × Slots κ γ :=
  match s.table.lookup k with
  | some i => (i, s)
  | none =>
    let groups := s.groups ++ [new]
    (groups.length - 1, ⟨(k, groups.length - 1) :: s.table, groups⟩)

/-- Changes the group of a key, which is new if there is none yet. -/
def put (s : Slots κ γ) (k : κ) (new : γ) (f : γ → γ) : Except (Fault R) (Slots κ γ) := do
  let (i, s) := s.slot k new
  let groups ← modify s.groups i f
  .ok { s with groups := groups }

end Slots

/-! ## Groups with their keys -/

/-- Changes the group with a key, which is added at the end if there is none. -/
def updateGroup (k : κ) (new : γ) (f : γ → γ) : List (κ × γ) → List (κ × γ)
  | [] => [(k, f new)]
  | g :: rest => if g.1 = k then (k, f g.2) :: rest else g :: updateGroup k new f rest

/-- An element is put into its group. -/
theorem insertInGroup_eq_updateGroup (k : κ) (x : α) (groups : List (κ × List α)) :
    insertInGroup k x groups = updateGroup k [] (· ++ [x]) groups := by
  induction groups with
  | nil => rfl
  | cons g groups ih =>
      rw [insertInGroup, updateGroup, ih]
      split
      case isTrue h => rw [h]
      case isFalse => rfl

/-- A group that is there is changed where it is. -/
theorem updateGroup_of_findIdx?_eq_some {k : κ} {groups : List (κ × γ)} {i : Nat}
    (h : groups.findIdx? (·.1 = k) = some i) (new : γ) (f : γ → γ) :
    ∃ g, groups[i]? = some (k, g) ∧ updateGroup k new f groups = groups.set i (k, f g) := by
  induction groups generalizing i with
  | nil => cases h
  | cons g groups ih =>
      rw [List.findIdx?_cons] at h
      by_cases hg : g.1 = k
      · rw [if_pos (decide_eq_true hg)] at h
        obtain rfl := Option.some.inj h
        refine ⟨g.2, by rw [← hg]; rfl, ?_⟩
        rw [updateGroup, if_pos hg]
        rfl
      · rw [if_neg (by simpa using hg)] at h
        obtain ⟨j, hj, rfl⟩ := Option.map_eq_some_iff.mp h
        obtain ⟨g', hg', hupdate⟩ := ih hj
        refine ⟨g', hg', ?_⟩
        rw [updateGroup, if_neg hg, hupdate]
        rfl

/-- A group that is not there comes to the end. -/
theorem updateGroup_of_findIdx?_eq_none {k : κ} {groups : List (κ × γ)}
    (h : groups.findIdx? (·.1 = k) = none) (new : γ) (f : γ → γ) :
    updateGroup k new f groups = groups ++ [(k, f new)] := by
  induction groups with
  | nil => rfl
  | cons g groups ih =>
      obtain ⟨hg, hgroups⟩ := List.forall_mem_cons.mp (List.findIdx?_eq_none_iff.mp h)
      rw [updateGroup, if_neg (of_decide_eq_false hg),
        ih (List.findIdx?_eq_none_iff.mpr hgroups)]
      rfl

/-- A group that is there is found by its key. -/
theorem lookup_of_findIdx?_eq_some {k : κ} {groups : List (κ × γ)} {i : Nat}
    (h : groups.findIdx? (·.1 = k) = some i) :
    ∃ g, groups[i]? = some (k, g) ∧ groups.lookup k = some g := by
  induction groups generalizing i with
  | nil => cases h
  | cons g groups ih =>
      rw [List.findIdx?_cons] at h
      by_cases hg : g.1 = k
      · rw [if_pos (decide_eq_true hg)] at h
        obtain rfl := Option.some.inj h
        exact ⟨g.2, by rw [← hg]; rfl, by rw [List.lookup_cons, hg, beq_self_eq_true]⟩
      · rw [if_neg (by simpa using hg)] at h
        obtain ⟨j, hj, rfl⟩ := Option.map_eq_some_iff.mp h
        obtain ⟨g', hg', hlookup⟩ := ih hj
        exact ⟨g', hg', by rw [List.lookup_cons, beq_false_of_ne (Ne.symm hg), hlookup]⟩

/-- Nothing is found by a key that no group has. -/
theorem lookup_of_findIdx?_eq_none {k : κ} {groups : List (κ × γ)}
    (h : groups.findIdx? (·.1 = k) = none) : groups.lookup k = none := by
  induction groups with
  | nil => rfl
  | cons g groups ih =>
      obtain ⟨hg, hgroups⟩ := List.forall_mem_cons.mp (List.findIdx?_eq_none_iff.mp h)
      rw [List.lookup_cons, beq_false_of_ne (Ne.symm (of_decide_eq_false hg)),
        ih (List.findIdx?_eq_none_iff.mpr hgroups)]

/-- What is found by a key when the group with some key has been changed. -/
theorem lookup_updateGroup (k k' : κ) (new : γ) (f : γ → γ) (groups : List (κ × γ)) :
    (updateGroup k new f groups).lookup k' =
      if k' = k then some (f ((groups.lookup k).getD new)) else groups.lookup k' := by
  induction groups with
  | nil =>
      rw [updateGroup, List.lookup_cons]
      by_cases hkey : k' = k
      · rw [hkey, beq_self_eq_true, if_pos rfl]
        rfl
      · rw [beq_false_of_ne hkey, if_neg hkey]
  | cons g groups ih =>
      rw [updateGroup]
      by_cases hg : g.1 = k
      · rw [if_pos hg, List.lookup_cons, List.lookup_cons, List.lookup_cons, hg]
        by_cases hkey : k' = k
        · rw [hkey, beq_self_eq_true, if_pos rfl]
          rfl
        · rw [beq_false_of_ne hkey, if_neg hkey]
      · rw [if_neg hg, List.lookup_cons, List.lookup_cons, List.lookup_cons, ih,
          beq_false_of_ne (Ne.symm hg)]
        by_cases hkey : k' = k
        · rw [hkey, beq_false_of_ne (Ne.symm hg), if_pos rfl]
        · rw [if_neg hkey, if_neg hkey]

namespace Slots

/-- Table and list are those of some groups with their keys. -/
structure Holds (s : Slots κ γ) (groups : List (κ × γ)) : Prop where
  /-- The list has the groups. -/
  groups_eq : s.groups = groups.map (·.2)
  /-- The table has the position of each of them. -/
  lookup_eq : ∀ k, s.table.lookup k = groups.findIdx? (·.1 = k)

theorem holds_empty : (empty : Slots κ γ).Holds [] := ⟨rfl, fun _ ↦ rfl⟩

/-- A group is changed at a position of the list. -/
theorem Holds.put_eq_ok {s : Slots κ γ} {groups : List (κ × γ)} (h : s.Holds groups) (k : κ)
    (new : γ) (f : γ → γ) : ∃ s', (s.put k new f : Except (Fault R) (Slots κ γ)) = .ok s' ∧
      s'.Holds (updateGroup k new f groups) := by
  obtain ⟨table, list⟩ := s
  obtain ⟨rfl, hlookup⟩ := h
  dsimp only at hlookup
  cases hk : groups.findIdx? (·.1 = k) with
  | some i =>
      obtain ⟨g, hg, hupdate⟩ := updateGroup_of_findIdx?_eq_some hk new f
      have hgroup : (groups.map (·.2))[i]? = some g := by rw [List.getElem?_map, hg]; rfl
      refine ⟨⟨table, (groups.map (·.2)).set i (f g)⟩, ?_, ?_, fun k' ↦ ?_⟩
      · rw [put, slot, hlookup, hk]
        dsimp only
        rw [modify_eq_ok hgroup]
        rfl
      · rw [hupdate, List.map_set]
      · -- The keys are the same as before.
        have hkeys : (groups.set i (k, f g)).map (·.1) = groups.map (·.1) := by
          have hkey : (groups.map (·.1))[i]? = some k := by rw [List.getElem?_map, hg]; rfl
          obtain ⟨hlt, hkey⟩ := List.getElem?_eq_some_iff.mp hkey
          rw [List.map_set, ← hkey, List.set_getElem_self hlt]
        have hfind := congrArg (List.findIdx? fun key ↦ key = k') hkeys
        rw [List.findIdx?_map, List.findIdx?_map] at hfind
        rw [hupdate]
        exact (hlookup k').trans hfind.symm
  | none =>
      refine ⟨⟨(k, groups.length) :: table, groups.map (·.2) ++ [f new]⟩, ?_, ?_, fun k' ↦ ?_⟩
      · rw [put, slot, hlookup, hk]
        dsimp only
        rw [List.length_append, List.length_map, List.length_singleton, Nat.add_sub_cancel,
          modify_concat (List.length_map _).symm]
        rfl
      · rw [updateGroup_of_findIdx?_eq_none hk, List.map_append]
        rfl
      · rw [updateGroup_of_findIdx?_eq_none hk, List.findIdx?_append, ← hlookup k',
          List.lookup_cons]
        by_cases hkey : k' = k
        · rw [hkey, beq_self_eq_true, hlookup k, hk]
          simp
        · rw [beq_false_of_ne hkey]
          simp [Ne.symm hkey]

end Slots

/-! ## Grouping -/

/-- The groups of elements with the same key. -/
def groupBy (f : α → κ) (xs : List α) : Except (Fault R) (List (List α)) := do
  let s ← xs.foldlM (fun s x ↦ s.put (f x) [] (· ++ [x])) Slots.empty
  .ok s.groups

/-- Elements are put into slots as they are put into groups. -/
theorem groupBy_eq_ok (f : α → κ) (xs : List α) :
    (groupBy f xs : Except (Fault R) (List (List α))) =
      .ok ((Charting.groupBy f xs).map (·.2)) := by
  have hrun : xs.foldlM (fun groups x ↦ .ok (insertInGroup (f x) x groups)) [] =
      (.ok (Charting.groupBy f xs) : Except (Fault R) (List (κ × List α))) :=
    foldlM_eq_ok_foldl (fun _ _ _ ↦ rfl) []
  obtain ⟨s, hs, h⟩ := foldlM_simulates (P := Slots.Holds)
    (f := fun s x ↦ (s.put (f x) [] (· ++ [x]) : Except (Fault R) (Slots κ (List α))))
    (fun x _ s groups groups' h hgroups ↦ by
      rw [← Except.ok.inj hgroups, insertInGroup_eq_updateGroup]
      exact h.put_eq_ok (f x) [] _) Slots.holds_empty hrun
  rw [groupBy, hs]
  exact congrArg Except.ok h.groups_eq

end Charting.Indexed
