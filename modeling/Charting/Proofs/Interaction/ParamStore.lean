import Mathlib.Data.List.Nodup
import Charting.Interaction.Params
import Charting.Proofs.Success

/-!
# Laws of the parameter store

A store lists every name once, and setting a parameter changes the value of that parameter and
nothing else.  The value that is handed back by `ParamStore.set` is all that is needed to undo it.
-/

namespace Charting

variable {R : Type}

namespace ParamStore

/-- The names of the parameters, in the order of declaration. -/
def names (s : ParamStore R) : List String := s.entries.map (·.1.name)

theorem names_eq (s : ParamStore R) : s.names = (s.entries.map (·.1)).map (·.name) := by
  rw [names, List.map_map]
  rfl

/-! ## Writing a value -/

/-- Writing a value keeps all declarations. -/
@[simp] theorem map_fst_put (name : String) (v : Value R)
    (entries : List (ParamSpec R × Value R)) :
    (put name v entries).map (·.1) = entries.map (·.1) := by
  induction entries with
  | nil => rfl
  | cons entry rest ih =>
      rw [put]
      split
      · rfl
      · rw [List.map_cons, List.map_cons, ih]

/-- Writing a value does not change what is found under other names. -/
theorem find?_put_of_ne {name other : String} (h : other ≠ name) (v : Value R)
    (entries : List (ParamSpec R × Value R)) :
    (put name v entries).find? (·.1.name == other) = entries.find? (·.1.name == other) := by
  induction entries with
  | nil => rfl
  | cons entry rest ih =>
      rw [put]
      split
      · rename_i hname
        have hne : (entry.1.name == other) = false := by
          rw [hname]
          exact beq_false_of_ne h.symm
        rw [List.find?_cons_of_neg (by simp [hne]), List.find?_cons_of_neg (by simp [hne])]
      · rw [List.find?_cons, List.find?_cons, ih]

/-- Writing back what was found under a name undoes a write to it. -/
theorem put_put_of_find? {name : String} {p : ParamSpec R} {old : Value R}
    {entries : List (ParamSpec R × Value R)}
    (h : entries.find? (·.1.name == name) = some (p, old)) (v : Value R) :
    put name old (put name v entries) = entries := by
  induction entries with
  | nil => rfl
  | cons entry rest ih =>
      obtain ⟨q, w⟩ := entry
      by_cases hname : q.name = name
      · rw [List.find?_cons_of_pos (by simpa using hname)] at h
        obtain ⟨rfl, rfl⟩ := Prod.mk.inj (Option.some.inj h)
        simp [put, hname]
      · rw [List.find?_cons_of_neg (by simpa using hname)] at h
        simp [put, hname, ih h]

/-- Writing a value changes nothing if it is the one that is found under the name. -/
theorem put_of_find? {name : String} {p : ParamSpec R} {v : Value R}
    {entries : List (ParamSpec R × Value R)}
    (h : entries.find? (·.1.name == name) = some (p, v)) : put name v entries = entries := by
  induction entries with
  | nil => rfl
  | cons entry rest ih =>
      obtain ⟨q, w⟩ := entry
      by_cases hname : q.name = name
      · rw [List.find?_cons_of_pos (by simpa using hname)] at h
        obtain ⟨rfl, rfl⟩ := Prod.mk.inj (Option.some.inj h)
        simp [put, hname]
      · rw [List.find?_cons_of_neg (by simpa using hname)] at h
        simp [put, hname, ih h]

/-- What is written under a name is found there. -/
theorem find?_put_of_find? {name : String} {p : ParamSpec R} {old : Value R}
    {entries : List (ParamSpec R × Value R)}
    (h : entries.find? (·.1.name == name) = some (p, old)) (v : Value R) :
    (put name v entries).find? (·.1.name == name) = some (p, v) := by
  induction entries with
  | nil => cases h
  | cons entry rest ih =>
      obtain ⟨q, w⟩ := entry
      by_cases hname : q.name = name
      · rw [List.find?_cons_of_pos (by simpa using hname)] at h
        obtain ⟨rfl, rfl⟩ := Prod.mk.inj (Option.some.inj h)
        simp [put, hname]
      · rw [List.find?_cons_of_neg (by simpa using hname)] at h
        simp [put, hname, ih h]

/-- Writing a value leaves the entries that are there, but for the one that is found under the
name. -/
theorem eq_or_mem_of_mem_put {name : String} {p : ParamSpec R} {old v : Value R}
    {entries : List (ParamSpec R × Value R)} {entry : ParamSpec R × Value R}
    (h : entries.find? (·.1.name == name) = some (p, old)) (hentry : entry ∈ put name v entries) :
    entry = (p, v) ∨ entry ∈ entries := by
  induction entries with
  | nil => cases hentry
  | cons first rest ih =>
      obtain ⟨q, w⟩ := first
      by_cases hname : q.name = name
      · rw [List.find?_cons_of_pos (by simpa using hname)] at h
        obtain ⟨rfl, rfl⟩ := Prod.mk.inj (Option.some.inj h)
        rw [put, if_pos hname, List.mem_cons] at hentry
        exact hentry.imp_right (List.mem_cons_of_mem _)
      · rw [List.find?_cons_of_neg (by simpa using hname)] at h
        rw [put, if_neg hname, List.mem_cons] at hentry
        rcases hentry with rfl | hentry
        · exact .inr List.mem_cons_self
        · exact (ih h hentry).imp_right (List.mem_cons_of_mem _)

/-! ## Declaring a parameter -/

/-- A declaration leaves the entries that are there, but for one of the same name. -/
theorem eq_or_mem_of_mem_declare {p : ParamSpec R} {v : Value R}
    {entries : List (ParamSpec R × Value R)} {entry : ParamSpec R × Value R}
    (h : entry ∈ declare p v entries) : entry = (p, v) ∨ entry ∈ entries := by
  induction entries with
  | nil => exact .inl (List.mem_singleton.mp h)
  | cons first rest ih =>
      rw [declare] at h
      split at h
      · exact (List.mem_cons.mp h).imp_right (List.mem_cons_of_mem _)
      · rcases List.mem_cons.mp h with rfl | h
        · exact .inr List.mem_cons_self
        · exact (ih h).imp_right (List.mem_cons_of_mem _)

/-- A declaration adds its name. -/
theorem mem_names_declare {p : ParamSpec R} {v : Value R} {name : String}
    {entries : List (ParamSpec R × Value R)} :
    name ∈ (declare p v entries).map (·.1.name) ↔
      name = p.name ∨ name ∈ entries.map (·.1.name) := by
  induction entries with
  | nil => simp [declare]
  | cons entry rest ih =>
      rw [declare]
      split
      · rename_i hname
        simp [hname]
      · simp only [List.map_cons, List.mem_cons, ih]
        tauto

/-- A declaration takes the place of an earlier one of the same name. -/
theorem nodup_names_declare {p : ParamSpec R} {v : Value R}
    {entries : List (ParamSpec R × Value R)} (h : (entries.map (·.1.name)).Nodup) :
    ((declare p v entries).map (·.1.name)).Nodup := by
  induction entries with
  | nil => simp [declare]
  | cons entry rest ih =>
      obtain ⟨hfresh, hrest⟩ := List.nodup_cons.mp h
      rw [declare]
      split
      · rename_i hname
        rw [List.map_cons, ← hname]
        exact List.nodup_cons.mpr ⟨hfresh, hrest⟩
      · rename_i hname
        refine List.nodup_cons.mpr ⟨fun hmem ↦ ?_, ih hrest⟩
        rcases mem_names_declare.mp hmem with heq | hmem
        · exact hname heq
        · exact hfresh hmem

variable [Scalar R]

/-! ## Setting a parameter -/

/-- A parameter is set if it is declared and its control accepts the value; what is written is what
the control makes of it. -/
theorem set_ok_iff {s s' : ParamStore R} {name : String} {v previous : Value R} :
    s.set name v = .ok (previous, s') ↔
      ∃ p w, s.entry? name = some (p, previous) ∧ p.accept v = .ok w ∧
        s' = ⟨put name w s.entries⟩ := by
  unfold set
  cases s.entry? name with
  | none => simp
  | some entry =>
      obtain ⟨p, old⟩ := entry
      simp only [bind_ok_iff]
      constructor
      · rintro ⟨w, hw, h⟩
        obtain ⟨rfl, rfl⟩ := Prod.mk.inj (Except.ok.inj h)
        exact ⟨p, w, rfl, hw, rfl⟩
      · rintro ⟨p', w, hp, hw, rfl⟩
        obtain ⟨rfl, rfl⟩ := Prod.mk.inj (Option.some.inj hp)
        exact ⟨w, hw, rfl⟩

/-- Putting back the previous value undoes setting a parameter. -/
theorem restore_of_set {s s' : ParamStore R} {name : String} {v previous : Value R}
    (h : s.set name v = .ok (previous, s')) : s'.restore name previous = s := by
  obtain ⟨p, w, hp, -, rfl⟩ := set_ok_iff.mp h
  exact congrArg mk (put_put_of_find? hp w)

theorem specs_of_set {s s' : ParamStore R} {name : String} {v previous : Value R}
    (h : s.set name v = .ok (previous, s')) : s'.entries.map (·.1) = s.entries.map (·.1) := by
  obtain ⟨p, w, -, -, rfl⟩ := set_ok_iff.mp h
  exact map_fst_put name w s.entries

/-- Setting a parameter leaves the values of all others alone. -/
theorem get?_of_set {s s' : ParamStore R} {name other : String} {v previous : Value R}
    (h : s.set name v = .ok (previous, s')) (hne : other ≠ name) :
    s'.get? other = s.get? other := by
  obtain ⟨p, w, -, -, rfl⟩ := set_ok_iff.mp h
  exact congrArg (Option.map (·.2)) (find?_put_of_ne hne w s.entries)

/-- Setting a parameter keeps the names. -/
theorem names_of_set {s s' : ParamStore R} {name : String} {v previous : Value R}
    (h : s.set name v = .ok (previous, s')) : s'.names = s.names := by
  rw [names_eq, names_eq, specs_of_set h]

/-- A new store has every name once. -/
theorem nodup_names_ofSpecs {specs : List (ParamSpec R)} {s : ParamStore R}
    (h : ofSpecs specs = .ok s) : s.names.Nodup := by
  obtain ⟨entries, hfold, h⟩ := bind_ok_iff.mp h
  obtain rfl : ParamStore.mk entries = s := Except.ok.inj h
  refine foldlM_ok_induction (P := fun entries ↦ (entries.map (·.1.name)).Nodup)
    (fun start p next hstart hnext ↦ ?_) List.nodup_nil hfold
  obtain ⟨v, -, hnext⟩ := bind_ok_iff.mp hnext
  obtain rfl : declare p v start = next := Except.ok.inj hnext
  exact nodup_names_declare hstart

end ParamStore

end Charting
