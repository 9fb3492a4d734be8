import Mathlib.Data.List.Forall2

/-!
# Steps that succeed

A computation that can fail is taken apart into the steps that it is made of: it succeeds exactly if
each of its steps does.  Everything that is proved about filtering, aggregation and compilation
starts from one of the equivalences of this file.
-/

namespace Charting

variable {ε ε' α β γ : Type}

/-! ## One step after another -/

/-- Two steps succeed exactly if the first one does, and the second one does with its result. -/
theorem bind_ok_iff {x : Except ε α} {f : α → Except ε β} {b : β} :
    (x >>= f) = .ok b ↔ ∃ a, x = .ok a ∧ f a = .ok b := by
  cases x with
  | error e => simp [bind, Except.bind]
  | ok a => simp [bind, Except.bind]

/-- Two steps fail exactly if the first one does, or the second one does with its result. -/
theorem bind_error_iff {x : Except ε α} {f : α → Except ε β} {e : ε} :
    (x >>= f) = .error e ↔ x = .error e ∨ ∃ a, x = .ok a ∧ f a = .error e := by
  cases x with
  | error e' => simp [bind, Except.bind]
  | ok a => simp [bind, Except.bind]

theorem map_ok_iff {x : Except ε α} {f : α → β} {b : β} :
    x.map f = .ok b ↔ ∃ a, x = .ok a ∧ f a = b := by
  cases x <;> simp [Except.map]

theorem map_error_iff {x : Except ε α} {f : α → β} {e : ε} : x.map f = .error e ↔ x = .error e := by
  cases x <;> simp [Except.map]

theorem mapError_ok_iff {x : Except ε α} {f : ε → ε'} {a : α} :
    x.mapError f = .ok a ↔ x = .ok a := by
  cases x <;> simp [Except.mapError]

theorem mapError_error_iff {x : Except ε α} {f : ε → ε'} {e : ε'} :
    x.mapError f = .error e ↔ ∃ cause, x = .error cause ∧ f cause = e := by
  cases x <;> simp [Except.mapError]

theorem exists_ok_of_isOk {x : Except ε α} (h : x.isOk = true) : ∃ a, x = .ok a := by
  cases x with
  | error e => cases h
  | ok a => exact ⟨a, rfl⟩

theorem exists_ok_of_ne_error {x : Except ε α} (h : ∀ e, x ≠ .error e) : ∃ a, x = .ok a := by
  cases x with
  | error e => exact absurd rfl (h e)
  | ok a => exact ⟨a, rfl⟩

/-- A computation whose result is seen to have some property has a result. -/
theorem exists_ok_of_map_eq_some {x : Except ε α} {f : α → β} {b : β}
    (h : x.toOption.map f = some b) : ∃ a, x = .ok a ∧ f a = b := by
  cases x with
  | error e => cases h
  | ok a => exact ⟨a, rfl, Option.some.inj h⟩

/-! ## The same step for every element of a list -/

/-- A step that is taken for every element succeeds with the list of its results. -/
theorem mapM_ok_iff {f : α → Except ε β} {xs : List α} {ys : List β} :
    xs.mapM f = .ok ys ↔ List.Forall₂ (fun x y ↦ f x = .ok y) xs ys := by
  induction xs generalizing ys with
  | nil =>
      rw [List.mapM_nil, List.forall₂_nil_left_iff]
      exact ⟨fun h ↦ (Except.ok.inj h).symm, fun h ↦ h ▸ rfl⟩
  | cons x xs ih =>
      rw [List.mapM_cons, bind_ok_iff]
      constructor
      · rintro ⟨y, hy, h⟩
        obtain ⟨ys', hys, h⟩ := bind_ok_iff.mp h
        obtain rfl : y :: ys' = ys := Except.ok.inj h
        exact .cons hy (ih.mp hys)
      · rintro (_ | ⟨hy, hys⟩)
        exact ⟨_, hy, bind_ok_iff.mpr ⟨_, ih.mpr hys, rfl⟩⟩

/-- A step that is taken for every element fails with the first element that it fails for. -/
theorem mapM_error_iff {f : α → Except ε β} {xs : List α} {e : ε} :
    xs.mapM f = .error e ↔ ∃ before x after, xs = before ++ x :: after ∧
      (∀ x' ∈ before, ∃ y, f x' = .ok y) ∧ f x = .error e := by
  induction xs with
  | nil =>
      rw [List.mapM_nil]
      refine ⟨fun h ↦ (by cases h), ?_⟩
      rintro ⟨before, x, after, h, -, -⟩
      cases before <;> cases h
  | cons x xs ih =>
      rw [List.mapM_cons, bind_error_iff]
      constructor
      · rintro (hx | ⟨y, hy, h⟩)
        · exact ⟨[], x, xs, rfl, by simp, hx⟩
        · rcases bind_error_iff.mp h with h | ⟨ys, -, h⟩
          · obtain ⟨before, x', after, rfl, hbefore, hx'⟩ := ih.mp h
            exact ⟨x :: before, x', after, rfl, List.forall_mem_cons.mpr ⟨⟨y, hy⟩, hbefore⟩, hx'⟩
          · cases h
      · rintro ⟨before, x', after, h, hbefore, hx'⟩
        cases before with
        | nil =>
            obtain ⟨rfl, -⟩ := List.cons.inj h
            exact .inl hx'
        | cons _ before =>
            obtain ⟨rfl, rfl⟩ := List.cons.inj h
            obtain ⟨⟨y, hy⟩, hbefore⟩ := List.forall_mem_cons.mp hbefore
            exact .inr ⟨y, hy, bind_error_iff.mpr
              (.inl (ih.mpr ⟨before, x', after, rfl, hbefore, hx'⟩))⟩

theorem exists_error_of_mapM_error {f : α → Except ε β} {xs : List α} {e : ε}
    (h : xs.mapM f = .error e) : ∃ x ∈ xs, f x = .error e := by
  obtain ⟨before, x, after, rfl, -, hx⟩ := mapM_error_iff.mp h
  exact ⟨x, List.mem_append_cons_self, hx⟩

/-- Checks that are made for every element fail only with the error of one of them. -/
theorem exists_error_of_forM_error {f : α → Except ε Unit} {xs : List α} {e : ε}
    (h : xs.forM f = .error e) : ∃ x ∈ xs, f x = .error e := by
  induction xs with
  | nil => cases h
  | cons x xs ih =>
      rcases bind_error_iff.mp h with hx | ⟨-, -, h⟩
      · exact ⟨x, List.mem_cons_self, hx⟩
      · obtain ⟨x', hx', herror⟩ := ih h
        exact ⟨x', List.mem_cons_of_mem x hx', herror⟩

/-- A step that is taken for every element of two lists succeeds if it does for those of each. -/
theorem mapM_append_ok_iff {f : α → Except ε β} {xs xs' : List α} {zs : List β} :
    (xs ++ xs').mapM f = .ok zs ↔
      ∃ ys ys', xs.mapM f = .ok ys ∧ xs'.mapM f = .ok ys' ∧ zs = ys ++ ys' := by
  rw [List.mapM_append, bind_ok_iff]
  constructor
  · rintro ⟨ys, hys, h⟩
    obtain ⟨ys', hys', h⟩ := bind_ok_iff.mp h
    exact ⟨ys, ys', hys, hys', (Except.ok.inj h).symm⟩
  · rintro ⟨ys, ys', hys, hys', rfl⟩
    exact ⟨ys, hys, bind_ok_iff.mpr ⟨ys', hys', rfl⟩⟩

/-- Elements of a list that is related to another one are each related to some element of it. -/
theorem exists_of_forall₂ {P : α → β → Prop} {xs : List α} {ys : List β}
    (h : List.Forall₂ P xs ys) : ∀ x ∈ xs, ∃ y, P x y := by
  induction h with
  | nil => simp
  | @cons x y xs ys hxy _ ih => exact List.forall_mem_cons.mpr ⟨⟨y, hxy⟩, ih⟩

/-- Lists that are related to one list in between are related by what relates their elements. -/
theorem forall₂_comp {P : α → β → Prop} {Q : β → γ → Prop} {xs : List α} {ys : List β}
    {zs : List γ} (hP : List.Forall₂ P xs ys) (hQ : List.Forall₂ Q ys zs) :
    List.Forall₂ (fun x z ↦ ∃ y, P x y ∧ Q y z) xs zs := by
  induction hP generalizing zs with
  | nil =>
      cases hQ
      exact .nil
  | cons hxy _ ih =>
      rcases hQ with _ | ⟨hyz, hQ⟩
      exact .cons ⟨_, hxy, hyz⟩ (ih hQ)

theorem exists_ok_of_mapM_ok {f : α → Except ε β} {xs : List α} {ys : List β}
    (h : xs.mapM f = .ok ys) : ∀ x ∈ xs, ∃ y, f x = .ok y :=
  exists_of_forall₂ (mapM_ok_iff.mp h)

/-- A step that is taken for every element succeeds if it does for each of them. -/
theorem exists_mapM_ok_iff {f : α → Except ε β} {xs : List α} :
    (∃ ys, xs.mapM f = .ok ys) ↔ ∀ x ∈ xs, ∃ y, f x = .ok y := by
  constructor
  · rintro ⟨ys, hys⟩
    exact exists_ok_of_mapM_ok hys
  · intro h
    refine exists_ok_of_ne_error fun e herror ↦ ?_
    obtain ⟨x, hx, herror⟩ := exists_error_of_mapM_error herror
    obtain ⟨y, hy⟩ := h x hx
    rw [hy] at herror
    cases herror

/-- Elements that are related to nothing but their images are related to the list of these. -/
theorem eq_map_of_forall₂ {P : α → β → Prop} {g : α → β} {xs : List α} {ys : List β}
    (h : List.Forall₂ P xs ys) (hg : ∀ x ∈ xs, ∀ y, P x y → y = g x) : ys = xs.map g := by
  induction h with
  | nil => rfl
  | @cons x y xs ys hxy _ ih =>
      rw [List.map_cons, hg x List.mem_cons_self y hxy,
        ih fun x' hx' ↦ hg x' (List.mem_cons_of_mem x hx')]

theorem eq_map_of_mapM_ok {f : α → Except ε β} {g : α → β} {xs : List α} {ys : List β}
    (h : xs.mapM f = .ok ys) (hg : ∀ x ∈ xs, ∀ y, f x = .ok y → y = g x) : ys = xs.map g :=
  eq_map_of_forall₂ (mapM_ok_iff.mp h) hg

/-- What holds at the start of a fold and is kept by each of its steps holds at its end. -/
theorem foldlM_ok_induction {f : β → α → Except ε β} {P : β → Prop}
    (step : ∀ b a b', P b → f b a = .ok b' → P b') {xs : List α} {b b' : β} (hb : P b)
    (h : xs.foldlM f b = .ok b') : P b' := by
  induction xs generalizing b with
  | nil =>
      obtain rfl : b = b' := Except.ok.inj h
      exact hb
  | cons x xs ih =>
      rw [List.foldlM_cons] at h
      obtain ⟨next, hnext, h⟩ := bind_ok_iff.mp h
      exact ih (step b x next hb hnext) h

/-- Steps that succeed for all elements can be taken one after another. -/
theorem foldlM_eq_ok_foldl {f : β → α → Except ε β} {g : β → α → β} {xs : List α}
    (h : ∀ x ∈ xs, ∀ b, f b x = .ok (g b x)) (b : β) : xs.foldlM f b = .ok (xs.foldl g b) := by
  induction xs generalizing b with
  | nil => rfl
  | cons x xs ih =>
      rw [List.foldlM_cons, h x List.mem_cons_self b]
      exact ih (fun x' hx' ↦ h x' (List.mem_cons_of_mem x hx')) (g b x)

/-- A fold fails exactly if it comes to a step that fails. -/
theorem foldlM_error_iff {f : β → α → Except ε β} {xs : List α} {b : β} {e : ε} :
    xs.foldlM f b = .error e ↔ ∃ before x after b', xs = before ++ x :: after ∧
      before.foldlM f b = .ok b' ∧ f b' x = .error e := by
  induction xs generalizing b with
  | nil =>
      rw [List.foldlM_nil]
      refine ⟨fun h ↦ (by cases h), ?_⟩
      rintro ⟨before, x, after, b', h, -, -⟩
      cases before <;> cases h
  | cons x xs ih =>
      rw [List.foldlM_cons, bind_error_iff]
      constructor
      · rintro (hx | ⟨next, hnext, h⟩)
        · exact ⟨[], x, xs, b, rfl, rfl, hx⟩
        · obtain ⟨before, x', after, b', rfl, hbefore, hx'⟩ := ih.mp h
          exact ⟨x :: before, x', after, b', rfl, bind_ok_iff.mpr ⟨next, hnext, hbefore⟩, hx'⟩
      · rintro ⟨before, x', after, b', h, hbefore, hx'⟩
        cases before with
        | nil =>
            obtain ⟨rfl, -⟩ := List.cons.inj h
            obtain rfl : b = b' := Except.ok.inj hbefore
            exact .inl hx'
        | cons _ before =>
            obtain ⟨rfl, rfl⟩ := List.cons.inj h
            obtain ⟨next, hnext, hbefore⟩ := bind_ok_iff.mp hbefore
            exact .inr ⟨next, hnext, ih.mpr ⟨before, x', after, b', rfl, hbefore, hx'⟩⟩

/-! ## Tests that can fail -/

/-- Whether a test has been carried out and holds. -/
def passes : Except ε Bool → Bool
  | .ok b => b
  | .error _ => false

@[simp] theorem passes_ok (b : Bool) : passes (.ok b : Except ε Bool) = b := rfl

@[simp] theorem passes_error (e : ε) : passes (.error e : Except ε Bool) = false := rfl

theorem passes_eq_true_iff {x : Except ε Bool} : passes x = true ↔ x = .ok true := by
  cases x <;> simp

/-- The elements that a test is passed by, in reverse and before those that were kept earlier. -/
private theorem filterAuxM_ok_iff {p : α → Except ε Bool} {xs kept ys : List α} :
    List.filterAuxM p xs kept = .ok ys ↔
      (∀ x ∈ xs, ∃ b, p x = .ok b) ∧ ys = (xs.filter (passes ∘ p)).reverse ++ kept := by
  induction xs generalizing kept with
  | nil => exact ⟨fun h ↦ ⟨by simp, (Except.ok.inj h).symm⟩, fun ⟨_, h⟩ ↦ h ▸ rfl⟩
  | cons x xs ih =>
      rw [List.filterAuxM, bind_ok_iff, List.forall_mem_cons]
      constructor
      · rintro ⟨b, hb, h⟩
        obtain ⟨hxs, rfl⟩ := ih.mp h
        refine ⟨⟨⟨b, hb⟩, hxs⟩, ?_⟩
        cases b <;> simp [hb]
      · rintro ⟨⟨⟨b, hb⟩, hxs⟩, rfl⟩
        refine ⟨b, hb, ih.mpr ⟨hxs, ?_⟩⟩
        cases b <;> simp [hb]

/-- Filtering by a test that can fail succeeds if the test can be carried out on every element, and
keeps the elements that pass it. -/
theorem filterM_ok_iff {p : α → Except ε Bool} {xs ys : List α} :
    xs.filterM p = .ok ys ↔ (∀ x ∈ xs, ∃ b, p x = .ok b) ∧ ys = xs.filter (passes ∘ p) := by
  rw [List.filterM, bind_ok_iff]
  constructor
  · rintro ⟨zs, hzs, h⟩
    obtain ⟨hxs, rfl⟩ := filterAuxM_ok_iff.mp hzs
    exact ⟨hxs, by simpa using (Except.ok.inj h).symm⟩
  · rintro ⟨hxs, rfl⟩
    exact ⟨_, filterAuxM_ok_iff.mpr ⟨hxs, rfl⟩, by simp [pure, Except.pure]⟩

/-- Filtering fails only with an error of its test. -/
theorem exists_error_of_filterM_error {p : α → Except ε Bool} {xs : List α} {e : ε}
    (h : xs.filterM p = .error e) : ∃ x ∈ xs, p x = .error e := by
  have haux : ∀ kept, List.filterAuxM p xs kept = .error e → ∃ x ∈ xs, p x = .error e := by
    clear h
    induction xs with
    | nil => exact fun kept h ↦ (by cases h)
    | cons x xs ih =>
        intro kept h
        rcases bind_error_iff.mp h with hx | ⟨b, -, h⟩
        · exact ⟨x, List.mem_cons_self, hx⟩
        · obtain ⟨x', hx', herror⟩ := ih _ h
          exact ⟨x', List.mem_cons_of_mem x hx', herror⟩
  rw [List.filterM, bind_error_iff] at h
  rcases h with h | ⟨kept, -, h⟩
  · exact haux [] h
  · cases h

end Charting
