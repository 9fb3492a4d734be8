import Charting.Proofs.Success
import Charting.Scale.Synthesis

/-!
# Reading at positions

A list can be read at a position only if it has an entry there.  In this directory a chart is
compiled with reads that stop the run where there is none, and it is proved that the run comes to
the same as without them: every position is inside its list.

This file has the reads themselves, and the lists that are read where their length has just been
looked at: palettes, gradients, ranges of numbers, and what is left of the values of an order.  For
these it does not matter what is in the lists.
-/

namespace Charting

/-- Why a run stops. -/
inductive Fault (R : Type) where
  /-- A list is read at a position that it does not have. -/
  | outOfBounds (position length : Nat)
  /-- The chart could not be compiled. -/
  | failed (e : CompileError R)

namespace Indexed

variable {R α β γ : Type}

/-! ## Reads -/

/-- The entry at a position. -/
def read (xs : List α) (i : Nat) : Except (Fault R) α :=
  match xs[i]? with
  | some x => .ok x
  | none => .error (.outOfBounds i xs.length)

/-- Changes the entry at a position. -/
def modify (xs : List α) (i : Nat) (f : α → α) : Except (Fault R) (List α) := do
  let x ← read xs i
  .ok (xs.set i (f x))

/-- Takes out the entry at a position. -/
def remove (xs : List α) (i : Nat) : Except (Fault R) (α × List α) := do
  let x ← read xs i
  .ok (x, xs.eraseIdx i)

theorem read_eq_ok {xs : List α} {i : Nat} {x : α} (h : xs[i]? = some x) :
    (read xs i : Except (Fault R) α) = .ok x := by
  rw [read, h]

theorem read_getElem (xs : List α) {i : Nat} (h : i < xs.length) :
    (read xs i : Except (Fault R) α) = .ok xs[i] :=
  read_eq_ok (List.getElem?_eq_getElem h)

theorem modify_eq_ok {xs : List α} {i : Nat} {x : α} (h : xs[i]? = some x) (f : α → α) :
    (modify xs i f : Except (Fault R) (List α)) = .ok (xs.set i (f x)) := by
  rw [modify, read_eq_ok h]
  rfl

/-- The entry that has just been added is changed. -/
theorem modify_concat {xs : List α} {i : Nat} (hi : i = xs.length) (x : α) (f : α → α) :
    (modify (xs ++ [x]) i f : Except (Fault R) (List α)) = .ok (xs ++ [f x]) := by
  rw [hi, modify_eq_ok (x := x) (by simp), List.set_append_right _ _ (Nat.le_refl _), Nat.sub_self]
  rfl

theorem remove_eq_ok {xs : List α} {i : Nat} {x : α} (h : xs[i]? = some x) :
    (remove xs i : Except (Fault R) (α × List α)) = .ok (x, xs.eraseIdx i) := by
  rw [remove, read_eq_ok h]
  rfl

/-! ## Runs that read nothing -/

/-- A run without reads. -/
def lift (x : Except (CompileError R) α) : Except (Fault R) α := x.mapError .failed

@[simp] theorem lift_ok (a : α) : (lift (.ok a) : Except (Fault R) α) = .ok a := rfl

/-- A run goes on as another one does if its next step does, whatever has come out so far. -/
theorem bind_eq_lift {x : Except (CompileError R) α} {f : α → Except (CompileError R) β} {g : α → γ}
    {x' : Except (Fault R) γ} {f' : γ → Except (Fault R) β} (hx : x' = lift (x.map g))
    (hf : ∀ a, x = .ok a → f' (g a) = lift (f a)) : x' >>= f' = lift (x >>= f) := by
  rw [hx]
  cases x with
  | error e => rfl
  | ok a => exact hf a rfl

/-- Two runs with the same steps come to the same. -/
theorem bind_lift {x : Except (CompileError R) α} {f : α → Except (CompileError R) β}
    {x' : Except (Fault R) α} {f' : α → Except (Fault R) β} (hx : x' = lift x)
    (hf : ∀ a, x = .ok a → f' a = lift (f a)) : x' >>= f' = lift (x >>= f) := by
  refine bind_eq_lift (g := id) (hx.trans ?_) hf
  cases x <;> rfl

theorem map_eq_lift {x : Except (CompileError R) α} {x' : Except (Fault R) α} (hx : x' = lift x)
    (f : α → β) : x'.map f = lift (x.map f) := by
  rw [hx]
  cases x <;> rfl

/-- The same step for every entry of a list. -/
theorem mapM_eq_lift {f : α → Except (CompileError R) β} {f' : α → Except (Fault R) β} {xs : List α}
    (h : ∀ x ∈ xs, f' x = lift (f x)) : xs.mapM f' = lift (xs.mapM f) := by
  induction xs with
  | nil => rfl
  | cons x xs ih =>
      obtain ⟨hx, hxs⟩ := List.forall_mem_cons.mp h
      rw [List.mapM_cons, List.mapM_cons]
      exact bind_lift hx fun y _ ↦ bind_lift (ih hxs) fun ys _ ↦ rfl

/-- A step that succeeds for every entry of a list has all its results. -/
theorem mapM_eq_ok_map {f : α → Except (Fault R) β} {g : α → β} {xs : List α}
    (h : ∀ x ∈ xs, f x = .ok (g x)) : xs.mapM f = .ok (xs.map g) := by
  induction xs with
  | nil => rfl
  | cons x xs ih =>
      obtain ⟨hx, hxs⟩ := List.forall_mem_cons.mp h
      rw [List.mapM_cons, hx, ih hxs]
      rfl

/-- Entries are read one after another at positions that are there. -/
theorem mapM_read_eq_ok {f : β → List α} {position : β → Nat} {bs : List β}
    (h : ∀ b ∈ bs, position b < (f b).length) :
    (bs.mapM fun b ↦ read (f b) (position b) : Except (Fault R) (List α)) =
      .ok (bs.filterMap fun b ↦ (f b)[position b]?) := by
  induction bs with
  | nil => rfl
  | cons b bs ih =>
      obtain ⟨hb, hbs⟩ := List.forall_mem_cons.mp h
      have hx := List.getElem?_eq_getElem hb
      rw [List.mapM_cons, read_eq_ok hx, ih hbs, List.filterMap_cons, hx]
      rfl

/-- A run keeps what each of its steps keeps, if it goes along with another run that succeeds. -/
theorem foldlM_simulates {ε ε' σ τ : Type} {P : σ → τ → Prop} {f : σ → α → Except ε σ}
    {g : τ → α → Except ε' τ} {xs : List α}
    (hstep : ∀ x ∈ xs, ∀ s t t', P s t → g t x = .ok t' → ∃ s', f s x = .ok s' ∧ P s' t')
    {s : σ} {t t' : τ} (h : P s t) (hrun : xs.foldlM g t = .ok t') :
    ∃ s', xs.foldlM f s = .ok s' ∧ P s' t' := by
  induction xs generalizing s t with
  | nil =>
      obtain rfl : t = t' := Except.ok.inj hrun
      exact ⟨s, rfl, h⟩
  | cons x xs ih =>
      obtain ⟨hx, hxs⟩ := List.forall_mem_cons.mp hstep
      rw [List.foldlM_cons] at hrun
      obtain ⟨next', hnext', hrun⟩ := bind_ok_iff.mp hrun
      obtain ⟨next, hnext, h⟩ := hx s t next' h hnext'
      obtain ⟨s', hs', h'⟩ := ih hxs h hrun
      exact ⟨s', by rw [List.foldlM_cons]; exact bind_ok_iff.mpr ⟨next, hnext, hs'⟩, h'⟩

/-! ## Palettes and ranges -/

/-- The entry at a position of a list that is repeated without end. -/
def cycle (xs : List α) (i : Nat) : Except (Fault R) (Option α) := do
  if xs.isEmpty then .ok none
  else
    let x ← read xs (i % xs.length)
    .ok (some x)

theorem cycle_eq (xs : List α) (i : Nat) :
    (cycle xs i : Except (Fault R) (Option α)) = .ok (cycle? xs i) := by
  cases xs with
  | nil => rfl
  | cons x xs =>
      have hlt : i % (x :: xs).length < (x :: xs).length := Nat.mod_lt i (Nat.succ_pos _)
      rw [cycle, cycle?, read_getElem _ hlt, List.getElem?_eq_getElem hlt]
      rfl

/-- The ends of a range of numbers, which are read if there are two numbers at least. -/
def rangeEnds (usual : R × R) : Option (RangeOverride R) → Except (Fault R) (Option (R × R))
  | none => .ok (some usual)
  | some (.interval a b) => .ok (some (a, b))
  | some (.numbers xs) => do
    if xs.length < 2 then .ok none
    else
      let first ← read xs 0
      let last ← read xs (xs.length - 1)
      .ok (some (first, last))
  | some _ => .ok none

theorem rangeEnds_eq [Scalar R] (usual : R × R) (given : Option (RangeOverride R)) :
    rangeEnds usual given = .ok (ScaleRequest.rangeEnds? usual given) := by
  match given with
  | none | some (.interval _ _) | some (.numbers []) | some (.numbers [_]) => rfl
  | some (.numbers (a :: b :: rest)) =>
      have hlast : (a :: b :: rest)[(a :: b :: rest).length - 1]? =
          some ((b :: rest).getLast (by simp)) := by
        rw [← List.getLast?_eq_getElem?, List.getLast?_cons_cons, List.getLast?_eq_some_getLast]
      rw [rangeEnds, if_neg (by simp), read_eq_ok (x := a) rfl, read_eq_ok hlast]
      rfl
  | some (.colors _) | some (.shapes _) => rfl

variable [Scalar R]

/-- The colour of a gradient, which is mixed from two neighbouring stops if there are some. -/
def interpolate (stops : List (Color R)) (t : R) : Except (Fault R) (Option (Color R)) :=
  match stops with
  | [] => .ok none
  | [only] => .ok (some only)
  | _ => do
    let t := if Scalar.isNaN t then Scalar.ofInt 0
      else Scalar.clamp t (Scalar.ofInt 0) (Scalar.ofInt 1)
    let segments := stops.length - 1
    let position := t * Scalar.ofNat segments
    let i := Nat.min (Scalar.toInt64 position).toNat (segments - 1)
    let a ← read stops i
    let b ← read stops (i + 1)
    .ok (some (Color.mix (Scalar.single (position - Scalar.ofNat i)) a b))

theorem interpolate_eq (stops : List (Color R)) (t : R) :
    interpolate stops t = .ok (Palette.interpolate? stops t) := by
  match stops with
  | [] | [_] => rfl
  | a :: b :: rest =>
      have hafter : ∀ n,
          Nat.min n ((a :: b :: rest).length - 1 - 1) + 1 < (a :: b :: rest).length :=
        fun n ↦ Nat.succ_lt_succ (Nat.lt_succ_of_le (Nat.min_le_right n rest.length))
      have hbefore : ∀ n, Nat.min n ((a :: b :: rest).length - 1 - 1) < (a :: b :: rest).length :=
        fun n ↦ Nat.lt_of_succ_lt (hafter n)
      dsimp only [interpolate, Palette.interpolate?]
      rw [read_getElem _ (hbefore _), read_getElem _ (hafter _),
        List.getElem?_eq_getElem (hbefore _), List.getElem?_eq_getElem (hafter _)]
      rfl

/-! ## Orders of values -/

/-- The listed values that were observed, in the order of the list, and then the others: each of
them is looked for by its key and taken out of those that are left. -/
def explicitOrder (observed : List (Value R)) :
    (order : List (Value R)) → Except (Fault R) (List (Value R))
  | [] => .ok observed
  | want :: order =>
    match observed.findIdx? fun v => v.key = want.key with
    | some i => do
      let (v, rest) ← remove observed i
      let values ← explicitOrder rest order
      .ok (v :: values)
    | none => explicitOrder observed order

/-- The value with a key is taken out at its position. -/
theorem takeKey?_eq (key : Value R) (values : List (Value R)) :
    takeKey? key values = (values.findIdx? fun v ↦ v.key = key).bind fun i ↦
      values[i]?.map fun v ↦ (v, values.eraseIdx i) := by
  induction values with
  | nil => rfl
  | cons v values ih =>
      rw [takeKey?, List.findIdx?_cons]
      by_cases hv : v.key = key
      · simp [hv]
      · rw [if_neg hv, ih]
        simp only [hv, decide_false]
        cases values.findIdx? fun v ↦ v.key = key with
        | none => rfl
        | some i => cases h : values[i]? <;> simp [h]

theorem explicitOrder_eq (observed order : List (Value R)) :
    explicitOrder observed order = .ok (Charting.explicitOrder observed order) := by
  induction order generalizing observed with
  | nil => rfl
  | cons want order ih =>
      rw [explicitOrder, Charting.explicitOrder, takeKey?_eq]
      cases hi : observed.findIdx? fun v ↦ v.key = want.key with
      | none => exact ih observed
      | some i =>
          obtain ⟨hlt, -⟩ := List.findIdx?_eq_some_iff_getElem.mp hi
          have hget := List.getElem?_eq_getElem hlt
          simp only [Option.bind_some, hget, Option.map_some, remove_eq_ok hget]
          change explicitOrder (observed.eraseIdx i) order >>= _ = _
          rw [ih]
          rfl

end Indexed

end Charting
