import Mathlib.Data.List.Induction
import Mathlib.Data.List.Nodup
import Mathlib.Data.List.Perm.Basic
import Charting.Data.Grouping

/-!
# Laws of grouping

`groupBy` inserts one element after another into a list of groups.  What comes out is described
without insertion (`groupBy_eq`): there is one group for each element that `distinctBy` keeps, and
it holds all elements with the same key in their original order.  Nothing is lost and nothing occurs
twice, whatever the keys (`groupBy_perm`).
-/

namespace Charting

variable {α β κ : Type} [DecidableEq κ]

/-! ## First elements -/

theorem distinctBy_sublist (f : α → κ) (xs : List α) : (distinctBy f xs).Sublist xs := by
  induction xs with
  | nil => exact .slnil
  | cons x xs ih => exact (List.filter_sublist.trans ih).cons_cons x

/-- The keys of the first elements are all keys. -/
theorem mem_map_distinctBy {f : α → κ} {xs : List α} {k : κ} :
    k ∈ (distinctBy f xs).map f ↔ k ∈ xs.map f := by
  induction xs with
  | nil => rfl
  | cons x xs ih =>
      by_cases hk : k = f x
      · simp [distinctBy, hk]
      · rw [List.map_cons, List.mem_cons, or_iff_right hk, ← ih]
        simp only [distinctBy, List.map_cons, List.mem_cons, or_iff_right hk, List.mem_map,
          List.mem_filter, decide_eq_true_eq]
        constructor
        · rintro ⟨y, ⟨hy, -⟩, rfl⟩
          exact ⟨y, hy, rfl⟩
        · rintro ⟨y, hy, rfl⟩
          exact ⟨y, ⟨hy, hk⟩, rfl⟩

/-- No two first elements have the same key. -/
theorem nodup_map_distinctBy (f : α → κ) (xs : List α) : ((distinctBy f xs).map f).Nodup := by
  induction xs with
  | nil => exact .nil
  | cons x xs ih =>
      rw [distinctBy, List.map_cons, List.nodup_cons]
      refine ⟨?_, ih.sublist (List.filter_sublist.map f)⟩
      intro hmem
      obtain ⟨y, hy, hyx⟩ := List.mem_map.mp hmem
      exact of_decide_eq_true (List.mem_filter.mp hy).2 hyx

/-- An element at the end is a first element if no element before it has its key. -/
theorem distinctBy_concat (f : α → κ) (xs : List α) (y : α) :
    distinctBy f (xs ++ [y]) = distinctBy f xs ++ if f y ∈ xs.map f then [] else [y] := by
  induction xs with
  | nil => rfl
  | cons x xs ih =>
      rw [List.cons_append, distinctBy, distinctBy, ih, List.filter_append, List.cons_append]
      by_cases hxy : f y = f x
      · simp [hxy]
      · by_cases hy : f y ∈ xs.map f <;> simp [hxy, hy]

/-- First elements are in the order in which their keys appear. -/
theorem pairwise_distinctBy (f : α → κ) (xs : List α) :
    (distinctBy f xs).Pairwise fun x y ↦
      xs.findIdx (fun z ↦ f z = f x) < xs.findIdx fun z ↦ f z = f y := by
  induction xs with
  | nil => exact .nil
  | cons x xs ih =>
      have hothers : ∀ y ∈ (distinctBy f xs).filter (f · ≠ f x), f x ≠ f y := fun y hy ↦
        Ne.symm (of_decide_eq_true (List.mem_filter.mp hy).2)
      rw [distinctBy, List.pairwise_cons]
      constructor
      · intro y hy
        simp [List.findIdx_cons, hothers y hy]
      · refine (ih.sublist List.filter_sublist).imp_of_mem fun {y z} hy hz hyz ↦ ?_
        simpa [List.findIdx_cons, hothers y hy, hothers z hz] using hyz

/-- First elements of images are images of first elements. -/
theorem distinctBy_map (f : β → κ) (g : α → β) (xs : List α) :
    distinctBy f (xs.map g) = (distinctBy (f ∘ g) xs).map g := by
  induction xs with
  | nil => rfl
  | cons x xs ih =>
      rw [List.map_cons, distinctBy, distinctBy, List.map_cons, ih, List.filter_map]
      rfl

/-! ## Groups -/

/-- An element whose key has no group yet gets one at the end. -/
theorem insertInGroup_of_notMem {k : κ} {groups : List (κ × List α)}
    (h : k ∉ groups.map (·.1)) (x : α) : insertInGroup k x groups = groups ++ [(k, [x])] := by
  induction groups with
  | nil => rfl
  | cons g groups ih =>
      rw [List.map_cons, List.mem_cons, not_or] at h
      rw [insertInGroup, if_neg (Ne.symm h.1), ih h.2]
      rfl

/-- An element whose key has a group is added to its end, and the other groups stay. -/
theorem insertInGroup_of_mem {k : κ} {groups : List (κ × List α)} (hk : k ∈ groups.map (·.1))
    (hnodup : (groups.map (·.1)).Nodup) (x : α) :
    insertInGroup k x groups =
      groups.map fun g ↦ (g.1, if g.1 = k then g.2 ++ [x] else g.2) := by
  induction groups with
  | nil => cases hk
  | cons g groups ih =>
      rw [List.map_cons, List.nodup_cons] at hnodup
      rw [insertInGroup, List.map_cons]
      by_cases hg : g.1 = k
      · have hothers : ∀ g' ∈ groups, g'.1 ≠ k := by
          rintro g' hg' rfl
          exact hnodup.1 (hg ▸ List.mem_map_of_mem hg')
        rw [if_pos hg, if_pos hg]
        refine congrArg (_ :: ·) ((List.map_id _).symm.trans (List.map_congr_left ?_))
        intro g' hg'
        simp [hothers g' hg']
      · rw [if_neg hg, if_neg hg, ih ((List.mem_cons.mp hk).resolve_left (Ne.symm hg)) hnodup.2]

/-- The elements that have the same key as a given one. -/
def peers (f : α → κ) (xs : List α) (x : α) : List α := xs.filter fun y ↦ f y = f x

/-- A first element comes before all others with its key. -/
theorem peers_of_mem_distinctBy {f : α → κ} {xs : List α} {x : α} (hx : x ∈ distinctBy f xs) :
    ∃ rest, peers f xs x = x :: rest := by
  induction xs with
  | nil => cases hx
  | cons y xs ih =>
      rcases List.mem_cons.mp hx with rfl | hx
      · exact ⟨_, List.filter_cons_of_pos (by simp)⟩
      · obtain ⟨hx, hne⟩ := List.mem_filter.mp hx
        have hyx : f y ≠ f x := Ne.symm (of_decide_eq_true hne)
        rw [peers, List.filter_cons_of_neg (by simpa using hyx)]
        exact ih hx

/-- A first element is found by its key. -/
theorem find?_of_mem_distinctBy {f : α → κ} {xs : List α} {x : α} (hx : x ∈ distinctBy f xs) :
    xs.find? (fun y ↦ f y = f x) = some x := by
  obtain ⟨rest, hrest⟩ := peers_of_mem_distinctBy hx
  rw [← List.head?_filter]
  exact congrArg List.head? hrest

/-- There is one group for each first element, which holds all elements with its key. -/
theorem groupBy_eq (f : α → κ) (xs : List α) :
    groupBy f xs = (distinctBy f xs).map fun x ↦ (f x, peers f xs x) := by
  induction xs using List.reverseRecOn with
  | nil => rfl
  | append_singleton xs y ih =>
      have hstep : groupBy f (xs ++ [y]) = insertInGroup (f y) y (groupBy f xs) := by
        simp [groupBy]
      have hkeys : (groupBy f xs).map (·.1) = (distinctBy f xs).map f := by
        rw [ih, List.map_map]
        rfl
      rw [hstep, distinctBy_concat]
      by_cases hy : f y ∈ xs.map f
      · rw [insertInGroup_of_mem (hkeys ▸ mem_map_distinctBy.mpr hy)
          (hkeys ▸ nodup_map_distinctBy f xs), ih, if_pos hy, List.append_nil, List.map_map]
        refine List.map_congr_left fun x _ ↦ ?_
        by_cases hxy : f y = f x
        · simp [peers, hxy]
        · simp [peers, hxy, Ne.symm hxy]
      · rw [insertInGroup_of_notMem (hkeys ▸ fun h ↦ hy (mem_map_distinctBy.mp h)), ih, if_neg hy,
          List.map_append]
        refine congrArg₂ (· ++ ·) (List.map_congr_left fun x hx ↦ ?_) ?_
        · have hxy : f y ≠ f x := by
            intro hxy
            exact hy (hxy ▸ List.mem_map_of_mem ((distinctBy_sublist f xs).subset hx))
          simp [peers, hxy]
        · have hnone : xs.filter (fun x ↦ f x = f y) = [] := by
            rw [List.filter_eq_nil_iff]
            intro x hx hxy
            exact hy (of_decide_eq_true hxy ▸ List.mem_map_of_mem hx)
          simp [peers, hnone]

/-- Groups of images are images of groups. -/
theorem groupBy_map (f : β → κ) (g : α → β) (xs : List α) :
    groupBy f (xs.map g) = (groupBy (f ∘ g) xs).map fun group ↦ (group.1, group.2.map g) := by
  rw [groupBy_eq, groupBy_eq, distinctBy_map, List.map_map, List.map_map]
  refine List.map_congr_left fun x _ ↦ ?_
  simp only [peers, Function.comp_apply, List.filter_map]
  rfl

/-! ## Nothing is lost -/

/-- A list is split by the value of `f` into parts for each of some distinct values, if every value
occurs among them. -/
theorem flatMap_filter_perm {f : α → κ} {ks : List κ} (hks : ks.Nodup) {xs : List α}
    (h : ∀ x ∈ xs, f x ∈ ks) : (ks.flatMap fun k ↦ xs.filter fun x ↦ f x = k).Perm xs := by
  induction ks generalizing xs with
  | nil =>
      obtain rfl : xs = [] := List.eq_nil_iff_forall_not_mem.mpr fun x hx ↦ by cases h x hx
      exact .refl []
  | cons k ks ih =>
      obtain ⟨hfresh, hks⟩ := List.nodup_cons.mp hks
      rw [List.flatMap_cons]
      -- The parts for the other values are parts of what is left without the first part.
      have hrest : (ks.flatMap fun k' ↦ xs.filter fun x ↦ f x = k') =
          ks.flatMap fun k' ↦ (xs.filter fun x ↦ !decide (f x = k)).filter fun x ↦ f x = k' := by
        refine List.flatMap_congr fun k' hk' ↦ ?_
        rw [List.filter_filter]
        refine List.filter_congr fun x _ ↦ ?_
        by_cases hx : f x = k'
        · have hne : k' ≠ k := fun heq ↦ hfresh (heq ▸ hk')
          simp [hx, hne]
        · simp [hx]
      rw [hrest]
      refine ((ih hks ?_).append_left _).trans (List.filter_append_perm _ xs)
      intro x hx
      obtain ⟨hx, hne⟩ := List.mem_filter.mp hx
      exact (List.mem_cons.mp (h x hx)).resolve_left (by simpa using hne)

/-- The elements with the same key as one of the first elements are all elements. -/
theorem flatMap_peers_perm (f : α → κ) (xs : List α) :
    ((distinctBy f xs).flatMap (peers f xs)).Perm xs := by
  have hkeys : (distinctBy f xs).flatMap (peers f xs) =
      ((distinctBy f xs).map f).flatMap fun k ↦ xs.filter fun x ↦ f x = k := by
    rw [List.flatMap_map]
    rfl
  rw [hkeys]
  exact flatMap_filter_perm (nodup_map_distinctBy f xs) fun x hx ↦
    mem_map_distinctBy.mpr (List.mem_map_of_mem hx)

/-- The groups together hold all elements. -/
theorem groupBy_perm (f : α → κ) (xs : List α) : ((groupBy f xs).flatMap (·.2)).Perm xs := by
  rw [groupBy_eq, List.flatMap_map]
  exact flatMap_peers_perm f xs

end Charting
