import Charting.Proofs.Json.Canonical

/-!
# Members of objects

A sorted object stays sorted when a member is put into it or left out, and it hands each of its
members to whoever reads a definition from it.
-/

namespace Charting

namespace Json

variable {R : Type}

/-! ## Putting members in and leaving them out -/

/-- The value with a member put among its members, if it is an object. -/
def put (j : Json R) (name : String) (x : Json R) : Json R :=
  match j with
  | object members => object (insertMember name x members)
  | j => j

/-- The value without its member of a name, if it is an object. -/
def without (j : Json R) (name : String) : Json R :=
  match j with
  | object members => object (members.filter (·.1 ≠ name))
  | j => j

/-- Whether the value is an object without a member of a name. -/
def Lacks (j : Json R) (name : String) : Prop :=
  ∃ members, j = object members ∧ members.lookup name = none

/-- The definitions that are written for one channel: one, or those in an array. -/
def definitions : Json R → List (Json R)
  | array items => items
  | j => [j]

theorem IsSorted.put {j x : Json R} (hj : j.IsSorted) (hx : x.IsSorted) (name : String) :
    (j.put name x).IsSorted := by
  cases hj with
  | object hnames hmembers =>
      refine .object (pairwise_insertMember hnames) fun m hm ↦ ?_
      rcases eq_or_mem_of_mem_insertMember hm with rfl | hm
      · exact hx
      · exact hmembers m hm
  | null => exact .null
  | bool b => exact .bool b
  | integer n => exact .integer n
  | real x => exact .real x
  | string s => exact .string s
  | array hitems => exact .array hitems

theorem IsSorted.without {j : Json R} (hj : j.IsSorted) (name : String) :
    (j.without name).IsSorted := by
  cases hj with
  | object hnames hmembers =>
      exact .object (hnames.filter _) fun m hm ↦ hmembers m (List.mem_filter.mp hm).1
  | null => exact .null
  | bool b => exact .bool b
  | integer n => exact .integer n
  | real x => exact .real x
  | string s => exact .string s
  | array hitems => exact .array hitems

/-- Whether the value is an object. -/
def IsObject (j : Json R) : Prop := ∃ members, j = object members

theorem IsObject.put {j : Json R} (hj : j.IsObject) (name : String) (x : Json R) :
    (j.put name x).IsObject := by
  obtain ⟨members, rfl⟩ := hj
  exact ⟨_, rfl⟩

theorem IsObject.without {j : Json R} (hj : j.IsObject) (name : String) :
    (j.without name).IsObject := by
  obtain ⟨members, rfl⟩ := hj
  exact ⟨_, rfl⟩

theorem IsObject.get?_put {j : Json R} (hj : j.IsObject) (name : String) (x : Json R)
    (other : String) :
    (j.put name x).get? other = if other = name then some x else j.get? other := by
  obtain ⟨members, rfl⟩ := hj
  exact lookup_insertMember

theorem IsObject.get?_without {j : Json R} (hj : j.IsObject) (name other : String) :
    (j.without name).get? other = if other = name then none else j.get? other := by
  obtain ⟨members, rfl⟩ := hj
  rw [Json.without, get?_object, get?_object]
  split
  case isTrue h => rw [h, lookup_filter_self]
  case isFalse h => rw [lookup_filter_ne h]

theorem IsSorted.definitions {j : Json R} (hj : j.IsSorted) : ∀ k ∈ j.definitions, k.IsSorted := by
  cases j with
  | array items => exact hj.items
  | _ => exact List.forall_mem_singleton.mpr hj

/-! ## Reading members -/

theorem draftMembers_eq (members : List (String × Json R)) :
    draftMembers members = members.map fun m ↦ (m.1, draft m.2) := by
  induction members with
  | nil => rfl
  | cons m members ih => rw [draftMembers, ih, List.map_cons]

theorem draftItems_eq (items : List (Json R)) : draftItems items = items.map draft := by
  induction items with
  | nil => rfl
  | cons j items ih => rw [draftItems, ih, List.map_cons]

theorem lookup_draftMembers (members : List (String × Json R)) (name : String) :
    (draftMembers members).lookup name = (members.lookup name).map draft := by
  rw [draftMembers_eq]
  induction members with
  | nil => rfl
  | cons m members ih =>
      rw [List.map_cons, List.lookup_cons, List.lookup_cons, ih]
      cases name == m.1 <;> rfl

/-- A sorted object has each of its members as a definition. -/
theorem fields?_draft {members : List (String × Json R)} (hnames : members.Pairwise (·.1 < ·.1))
    (names : List String) :
    fields? names (object members).draft = some fun name ↦ (members.lookup name).map draft := by
  have hnames : (draftMembers members).Pairwise (·.1 < ·.1) := by
    rw [draftMembers_eq]
    exact List.pairwise_map.mpr hnames
  rw [draft, fields?, if_pos]
  · simp only [lookup_draftMembers]
  · exact List.all_eq_true.mpr fun name _ ↦ decide_eq_true (length_filter_le_one hnames name)

/-- A sorted value is read as it is. -/
theorem IsSorted.free?_draft {j : Json R} (hj : j.IsSorted) : free? j.draft = some j := by
  rw [free?, value?_draft, Option.map_some, hj.canonical_eq]

end Json

end Charting
