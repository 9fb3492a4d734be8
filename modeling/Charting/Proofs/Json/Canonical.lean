import Charting.Document.Grammar

/-!
# Sorted values

A JSON value is sorted if the names in each of its objects increase, so that none is repeated.  The
canonical form of a value is sorted, and a sorted value is its own canonical form: sorted values are
the values themselves, whatever the text that they were read from.
-/

namespace Charting

namespace Json

variable {R : Type}

@[simp]
theorem get?_object (members : List (String × Json R)) (name : String) :
    (object members).get? name = members.lookup name := rfl

/-- In every object the names increase. -/
inductive IsSorted : Json R → Prop
  /-- The word `null` has no names in it. -/
  | null : IsSorted null
  /-- A truth value has no names in it. -/
  | bool (b : Bool) : IsSorted (bool b)
  /-- An integer has no names in it. -/
  | integer (n : Int) : IsSorted (integer n)
  /-- A number has no names in it. -/
  | real (x : R) : IsSorted (real x)
  /-- A text has no names in it. -/
  | string (s : String) : IsSorted (string s)
  /-- An array is sorted if its items are. -/
  | array {items : List (Json R)} (hitems : ∀ j ∈ items, IsSorted j) : IsSorted (array items)
  /-- An object is sorted if its names increase and its members are sorted. -/
  | object {members : List (String × Json R)} (hnames : members.Pairwise (·.1 < ·.1))
      (hmembers : ∀ m ∈ members, IsSorted m.2) : IsSorted (object members)

/-! ## Members -/

section Members

variable {α : Type} {name other : String} {x : α} {members : List (String × α)}

theorem mem_of_lookup (h : members.lookup name = some x) : (name, x) ∈ members := by
  obtain ⟨before, after, rfl, -⟩ := List.lookup_eq_some_iff.mp h
  exact List.mem_append_cons_self

/-- Among members with increasing names each is found by its name. -/
theorem lookup_of_mem (hmembers : members.Pairwise (·.1 < ·.1)) (h : (name, x) ∈ members) :
    members.lookup name = some x := by
  obtain ⟨before, after, rfl⟩ := List.append_of_mem h
  refine List.lookup_eq_some_iff.mpr ⟨before, after, rfl, fun m hm ↦ bne_iff_ne.mpr ?_⟩
  have hlt : m.1 < name :=
    (List.pairwise_append.mp hmembers).2.2 m hm (name, x) List.mem_cons_self
  exact fun heq ↦ String.lt_irrefl name (heq ▸ hlt)

theorem eq_or_mem_of_mem_insertMember {m : String × α} (hm : m ∈ insertMember name x members) :
    m = (name, x) ∨ m ∈ members := by
  induction members with
  | nil => exact .inl (List.mem_singleton.mp hm)
  | cons first rest ih =>
      obtain ⟨other, y⟩ := first
      rw [insertMember] at hm
      split at hm
      · exact List.mem_cons.mp hm
      · split at hm
        · exact (List.mem_cons.mp hm).imp_right (List.mem_cons_of_mem _)
        · rcases List.mem_cons.mp hm with rfl | hm
          · exact .inr List.mem_cons_self
          · exact (ih hm).imp_right (List.mem_cons_of_mem _)

/-- A member is put in its place. -/
theorem pairwise_insertMember (hmembers : members.Pairwise (·.1 < ·.1)) :
    (insertMember name x members).Pairwise (·.1 < ·.1) := by
  induction members with
  | nil => exact List.pairwise_singleton _ _
  | cons first rest ih =>
      obtain ⟨other, y⟩ := first
      obtain ⟨hfirst, hrest⟩ := List.pairwise_cons.mp hmembers
      rw [insertMember]
      split
      case isTrue hlt =>
        refine List.pairwise_cons.mpr ⟨fun m hm ↦ ?_, hmembers⟩
        rcases List.mem_cons.mp hm with rfl | hm
        · exact hlt
        · exact String.lt_trans hlt (hfirst m hm)
      case isFalse hle =>
        split
        case isTrue heq =>
          subst heq
          exact List.pairwise_cons.mpr ⟨hfirst, hrest⟩
        case isFalse hne =>
          refine List.pairwise_cons.mpr ⟨fun m hm ↦ ?_, ih hrest⟩
          rcases eq_or_mem_of_mem_insertMember hm with rfl | hm
          · grind
          · exact hfirst m hm

/-- A member whose name comes after all others is put at the end. -/
theorem insertMember_of_forall_lt (h : ∀ m ∈ members, m.1 < name) :
    insertMember name x members = members ++ [(name, x)] := by
  induction members with
  | nil => rfl
  | cons first rest ih =>
      obtain ⟨other, y⟩ := first
      obtain ⟨hfirst, hrest⟩ := List.forall_mem_cons.mp h
      rw [insertMember, if_neg (String.lt_asymm hfirst), if_neg (by grind), ih hrest,
        List.cons_append]

/-- The member that has been put among others is found, and the others are found as before. -/
theorem lookup_insertMember :
    (insertMember name x members).lookup other =
      if other = name then some x else members.lookup other := by
  induction members with
  | nil => grind [insertMember]
  | cons first rest ih =>
      obtain ⟨third, y⟩ := first
      rw [insertMember]
      split
      case isTrue hlt => rw [List.lookup_cons]; grind
      case isFalse hle =>
        split
        case isTrue heq => subst heq; grind
        case isFalse hne => rw [List.lookup_cons, ih]; grind

/-- Among members with increasing names no name is repeated. -/
theorem length_filter_le_one (hmembers : members.Pairwise (·.1 < ·.1)) (name : String) :
    (members.filter (·.1 == name)).length ≤ 1 := by
  induction members with
  | nil => exact Nat.zero_le 1
  | cons first rest ih =>
      obtain ⟨hfirst, hrest⟩ := List.pairwise_cons.mp hmembers
      by_cases h : first.1 = name
      · have hnone : rest.filter (·.1 == name) = [] :=
          List.filter_eq_nil_iff.mpr fun m hm ↦ by
            have hlt := hfirst m hm
            grind
        simp [h, hnone]
      · simpa [h] using ih hrest

theorem lookup_filter_self : (members.filter (·.1 ≠ name)).lookup name = none := by
  refine List.lookup_eq_none_iff.mpr fun m hm ↦ bne_iff_ne.mpr (Ne.symm ?_)
  simpa using (List.mem_filter.mp hm).2

/-- The members of other names are found as before. -/
theorem lookup_filter_ne (h : other ≠ name) :
    (members.filter (·.1 ≠ name)).lookup other = members.lookup other := by
  induction members with
  | nil => rfl
  | cons first rest ih => grind

end Members

/-- The members of a sorted value are sorted. -/
theorem IsSorted.get? {j k : Json R} {name : String} (hj : j.IsSorted) (hk : j.get? name = some k) :
    k.IsSorted := by
  obtain ⟨members, hmembers, hk⟩ := Option.bind_eq_some_iff.mp hk
  cases hj with
  | object _ hsorted =>
      obtain rfl := Option.some.inj hmembers
      exact hsorted _ (mem_of_lookup hk)
  | _ => cases hmembers

theorem IsSorted.items {items : List (Json R)} (h : (Json.array items).IsSorted) :
    ∀ j ∈ items, j.IsSorted := by
  cases h with
  | array hitems => exact hitems

theorem IsSorted.names {members : List (String × Json R)} (h : (Json.object members).IsSorted) :
    members.Pairwise (·.1 < ·.1) := by
  cases h with
  | object hnames => exact hnames

theorem IsSorted.values {members : List (String × Json R)} (h : (Json.object members).IsSorted) :
    ∀ m ∈ members, m.2.IsSorted := by
  cases h with
  | object _ hmembers => exact hmembers

/-- A member of a value is smaller than the value. -/
theorem sizeOf_lt_of_get? {j k : Json R} {name : String} (hk : j.get? name = some k) :
    sizeOf k < sizeOf j := by
  obtain ⟨members, hmembers, hk⟩ := Option.bind_eq_some_iff.mp hk
  cases j with
  | object members' =>
      obtain rfl := Option.some.inj hmembers
      have hmem := List.sizeOf_lt_of_mem (mem_of_lookup hk)
      simp only [Prod.mk.sizeOf_spec] at hmem
      simp only [object.sizeOf_spec]
      omega
  | _ => cases hmembers

/-- The items of a member of a value are smaller than the value. -/
theorem sizeOf_items_lt_of_get? {j : Json R} {items : List (Json R)} {name : String}
    (h : j.get? name = some (array items)) : sizeOf items < sizeOf j := by
  have hlt := sizeOf_lt_of_get? h
  rw [array.sizeOf_spec] at hlt
  omega

/-! ## The canonical form -/

theorem canonicalItems_eq (items : List (Json R)) : canonicalItems items = items.map canonical := by
  induction items with
  | nil => rfl
  | cons j items ih => rw [canonicalItems, ih, List.map_cons]

mutual

/-- The canonical form is sorted. -/
theorem isSorted_canonical (j : Json R) : j.canonical.IsSorted := by
  cases j with
  | null => exact .null
  | bool b => exact .bool b
  | integer n => exact .integer n
  | real x => exact .real x
  | string s => exact .string s
  | array items =>
      rw [canonical, canonicalItems_eq]
      exact .array fun j hj ↦ by
        obtain ⟨item, hitem, rfl⟩ := List.mem_map.mp hj
        exact forall_mem_isSorted_canonical items item hitem
  | object members =>
      rw [canonical]
      exact isSorted_canonicalMembers members [] .nil (by simp)

theorem forall_mem_isSorted_canonical (items : List (Json R)) :
    ∀ j ∈ items, j.canonical.IsSorted := by
  cases items with
  | nil => exact List.forall_mem_nil _
  | cons j items =>
      exact List.forall_mem_cons.mpr ⟨isSorted_canonical j, forall_mem_isSorted_canonical items⟩

/-- Members that are put one by one among sorted members are sorted. -/
theorem isSorted_canonicalMembers (members sorted : List (String × Json R))
    (hnames : sorted.Pairwise (·.1 < ·.1)) (hsorted : ∀ m ∈ sorted, m.2.IsSorted) :
    (object (canonicalMembers members sorted)).IsSorted := by
  cases members with
  | nil => exact .object hnames hsorted
  | cons m members =>
      rw [canonicalMembers]
      refine isSorted_canonicalMembers members _ (pairwise_insertMember hnames) fun m' hm' ↦ ?_
      rcases eq_or_mem_of_mem_insertMember hm' with rfl | hm'
      · exact isSorted_canonical m.2
      · exact hsorted m' hm'

end

/-- Members that come after those that are in place, and in order, are put at the end. -/
theorem canonicalMembers_of_pairwise {before after : List (String × Json R)}
    (hnames : (before ++ after).Pairwise (·.1 < ·.1)) (hafter : ∀ m ∈ after, m.2.canonical = m.2) :
    canonicalMembers after before = before ++ after := by
  induction after generalizing before with
  | nil => rw [canonicalMembers, List.append_nil]
  | cons m after ih =>
      obtain ⟨hm, hafter⟩ := List.forall_mem_cons.mp hafter
      have hlt : ∀ m' ∈ before, m'.1 < m.1 := fun m' hm' ↦
        (List.pairwise_append.mp hnames).2.2 m' hm' m List.mem_cons_self
      have hnames : (before ++ [m] ++ after).Pairwise (·.1 < ·.1) := by simpa using hnames
      rw [canonicalMembers, hm, insertMember_of_forall_lt hlt, ih hnames hafter, List.append_assoc,
        List.singleton_append]

/-- A sorted value is its own canonical form. -/
theorem IsSorted.canonical_eq {j : Json R} (hj : j.IsSorted) : j.canonical = j := by
  induction hj with
  | null | bool | integer | real | string => rw [canonical] <;> simp
  | array _ ih => rw [canonical, canonicalItems_eq, List.map_congr_left ih, List.map_id']
  | object hnames _ ih =>
      rw [canonical, canonicalMembers_of_pairwise (by simpa using hnames) ih, List.nil_append]

end Json

end Charting
