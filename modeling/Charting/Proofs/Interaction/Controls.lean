import Charting.Proofs.Interaction.ParamStore
import Charting.Proofs.Interaction.Sliders

/-!
# Values of controls

A control accepts an input only if it can show what it makes of it (`ParamBind.shows_of_accept`),
and what it can show it accepts as it is (`ParamBind.accept_of_shows`).  So every value of a store
is one that the control of its parameter can show, however it got there (`ParamStore.run_shows`).
Numbers are exact here.
-/

namespace Charting

/-! ## Controls -/

namespace ParamBind

variable {v w : Value Rat}

/-- The values that a control can show. -/
def Shows : ParamBind Rat → Value Rat → Prop
  | slider min max step, v => ∃ x, v = .number x ∧ IsStop min max step x
  | select options, v => ∃ o ∈ options, o.key = v.key
  | checkbox, v => v = .string "true" ∨ v = .string "false"

/-- A slider accepts the numbers of its range. -/
theorem accept_slider_ok_iff {min max : Rat} {step : Option Rat} :
    (slider min max step).accept v = .ok w ↔
      ∃ x, v.toFinite? = some x ∧ min ≤ x ∧ x ≤ max ∧ w = .number (snapToGrid x min max step) := by
  change slide min max step v = .ok w ↔ _
  rw [slide]
  cases v.toFinite? with
  | none => simp
  | some x =>
      simp only [Bool.or_eq_true, decide_eq_true_eq, Option.some.injEq, exists_eq_left']
      by_cases hrange : x < min ∨ max < x
      · rw [if_pos hrange]
        refine ⟨fun h ↦ (by cases h), ?_⟩
        rintro ⟨hmin, hmax, -⟩
        rcases hrange with hlt | hlt
        · exact absurd hlt hmin.not_gt
        · exact absurd hlt hmax.not_gt
      · rw [if_neg hrange]
        rw [not_or, not_lt, not_lt] at hrange
        refine ⟨fun h ↦ ⟨hrange.1, hrange.2, (Except.ok.inj h).symm⟩, ?_⟩
        rintro ⟨-, -, rfl⟩
        rfl

/-- A list of options accepts what has the key of an option. -/
theorem accept_select_ok_iff {options : List (Value Rat)} :
    (select options).accept v = .ok w ↔ (∃ o ∈ options, o.key = v.key) ∧ w = v := by
  have hany : options.any (fun o ↦ o.key = v.key) = true ↔ ∃ o ∈ options, o.key = v.key := by
    simp
  rw [accept, ← hany]
  by_cases hoption : options.any (fun o ↦ o.key = v.key) = true
  · rw [if_pos hoption]
    exact ⟨fun h ↦ ⟨hoption, (Except.ok.inj h).symm⟩, fun h ↦ congrArg _ h.2.symm⟩
  · rw [if_neg hoption]
    exact ⟨fun h ↦ (by cases h), fun h ↦ absurd h.1 hoption⟩

/-- A check box accepts what stands for a truth value. -/
theorem accept_checkbox_ok_iff :
    checkbox.accept v = .ok w ↔
      ∃ b, v.toBool? = some b ∧ w = .string (if b then "true" else "false") := by
  rw [accept]
  cases v.toBool? <;> simp [eq_comm]

/-- A control can show what it makes of an input that it accepts. -/
theorem shows_of_accept {bind : ParamBind Rat} (h : bind.accept v = .ok w) : bind.Shows w := by
  cases bind with
  | slider min max step =>
      obtain ⟨x, -, hmin, hmax, rfl⟩ := accept_slider_ok_iff.mp h
      exact ⟨_, rfl, (isNearestStop_snapToGrid hmin hmax).isStop⟩
  | select options =>
      obtain ⟨hoption, rfl⟩ := accept_select_ok_iff.mp h
      exact hoption
  | checkbox =>
      obtain ⟨b, -, rfl⟩ := accept_checkbox_ok_iff.mp h
      cases b
      · exact .inr rfl
      · exact .inl rfl

/-- A control accepts what it can show, and leaves it as it is. -/
theorem accept_of_shows {bind : ParamBind Rat} (h : bind.Shows v) : bind.accept v = .ok v := by
  cases bind with
  | slider min max step =>
      obtain ⟨x, rfl, hx⟩ := h
      refine accept_slider_ok_iff.mpr ⟨x, rfl, hx.min_le, hx.le_max, ?_⟩
      rw [snapToGrid_of_isStop hx]
  | select options => exact accept_select_ok_iff.mpr ⟨h, rfl⟩
  | checkbox =>
      rcases h with rfl | rfl
      · exact accept_checkbox_ok_iff.mpr ⟨true, rfl, rfl⟩
      · exact accept_checkbox_ok_iff.mpr ⟨false, rfl, rfl⟩

end ParamBind

namespace ParamSpec

variable {p : ParamSpec Rat} {v w : Value Rat}

/-- The values that a parameter can have: those that its control can show, if it has one. -/
def Shows (p : ParamSpec Rat) (v : Value Rat) : Prop := ∀ bind, p.bind = some bind → bind.Shows v

theorem accept_ok_iff :
    p.accept v = .ok w ↔
      (∃ bind, p.bind = some bind ∧ bind.accept v = .ok w) ∨ p.bind = none ∧ w = v := by
  rw [accept]
  cases p.bind with
  | none => simp [eq_comm]
  | some bind => simp [mapError_ok_iff]

/-- A parameter can have the values that it takes. -/
theorem shows_of_accept (h : p.accept v = .ok w) : p.Shows w := by
  intro bind hbind
  rcases accept_ok_iff.mp h with ⟨bind', hbind', h⟩ | ⟨hnone, -⟩
  · obtain rfl := Option.some.inj (hbind.symm.trans hbind')
    exact ParamBind.shows_of_accept h
  · rw [hnone] at hbind
    cases hbind

/-- A parameter takes the values that it can have, as they are. -/
theorem accept_of_shows (h : p.Shows v) : p.accept v = .ok v := by
  rw [accept_ok_iff]
  cases hbind : p.bind with
  | none => exact .inr ⟨rfl, rfl⟩
  | some bind => exact .inl ⟨bind, rfl, ParamBind.accept_of_shows (h bind hbind)⟩

/-- A parameter with a slider takes the stop that is nearest to an input. -/
theorem exists_isNearestStop_of_accept {min max : Rat} {step : Option Rat}
    (hbind : p.bind = some (.slider min max step)) (h : p.accept v = .ok w) :
    ∃ x y, v.toFinite? = some x ∧ w = .number y ∧ IsNearestStop min max step x y := by
  rcases accept_ok_iff.mp h with ⟨bind, hbind', h⟩ | ⟨hnone, -⟩
  · obtain rfl := Option.some.inj (hbind.symm.trans hbind')
    obtain ⟨x, hx, hmin, hmax, rfl⟩ := ParamBind.accept_slider_ok_iff.mp h
    exact ⟨x, _, hx, rfl, isNearestStop_snapToGrid hmin hmax⟩
  · rw [hnone] at hbind
    cases hbind

end ParamSpec

/-! ## Stores -/

namespace ParamStore

section Histories

variable {R : Type} [Scalar R]

/-- The store that a call to set a parameter leaves behind, whether the value is accepted or not. -/
def assign (s : ParamStore R) (name : String) (v : Value R) : ParamStore R :=
  match s.set name v with
  | .ok (_, s') => s'
  | .error _ => s

/-- The store that a sequence of such calls leaves behind. -/
def run (s : ParamStore R) (calls : List (String × Value R)) : ParamStore R :=
  calls.foldl (fun s call ↦ s.assign call.1 call.2) s

/-- What holds of a store and is preserved by every value that is accepted holds after any calls. -/
theorem run_induction {P : ParamStore R → Prop}
    (step : ∀ s s' name v previous, P s → s.set name v = .ok (previous, s') → P s')
    {s : ParamStore R} (hs : P s) (calls : List (String × Value R)) : P (s.run calls) := by
  induction calls generalizing s with
  | nil => exact hs
  | cons call rest ih =>
      refine ih (s := s.assign call.1 call.2) ?_
      rw [assign]
      split
      · exact step _ _ _ _ _ hs (by assumption)
      · exact hs

/-- Initial values are declared one after another.  A store has the names that have been declared,
and each of its entries is a declaration with what the parameter takes for its initial value. -/
theorem declared_of_foldlM {specs : List (ParamSpec R)}
    {start entries : List (ParamSpec R × Value R)}
    (h : specs.foldlM (fun entries p ↦ do
      let v ← p.accept p.value
      .ok (declare p v entries)) start = .ok entries) :
    (∀ name, name ∈ entries.map (·.1.name) ↔
      name ∈ start.map (·.1.name) ∨ ∃ p ∈ specs, p.name = name) ∧
    ∀ entry ∈ entries, entry ∈ start ∨
      entry.1 ∈ specs ∧ entry.1.accept entry.1.value = .ok entry.2 := by
  induction specs generalizing start with
  | nil =>
      obtain rfl : start = entries := Except.ok.inj h
      simp
  | cons p specs ih =>
      rw [List.foldlM_cons] at h
      obtain ⟨next, hnext, h⟩ := bind_ok_iff.mp h
      obtain ⟨v, hv, hnext⟩ := bind_ok_iff.mp hnext
      obtain rfl : declare p v start = next := Except.ok.inj hnext
      obtain ⟨hnames, hentries⟩ := ih h
      constructor
      · intro name
        rw [hnames, mem_names_declare, List.exists_mem_cons_iff]
        tauto
      · intro entry hentry
        rcases hentries entry hentry with hentry | ⟨hspecs, haccept⟩
        · -- The entry was there before the rest of the declarations.
          rcases eq_or_mem_of_mem_declare hentry with rfl | hentry
          · exact .inr ⟨List.mem_cons_self, hv⟩
          · exact .inl hentry
        · exact .inr ⟨List.mem_cons_of_mem _ hspecs, haccept⟩

/-- A new store has the names that are declared, and the values that the declarations ask for. -/
theorem declared_of_ofSpecs {specs : List (ParamSpec R)} {s : ParamStore R}
    (h : ofSpecs specs = .ok s) :
    (∀ name, name ∈ s.names ↔ ∃ p ∈ specs, p.name = name) ∧
      ∀ entry ∈ s.entries, entry.1 ∈ specs ∧ entry.1.accept entry.1.value = .ok entry.2 := by
  obtain ⟨entries, hfold, h⟩ := bind_ok_iff.mp h
  obtain rfl : mk entries = s := Except.ok.inj h
  simpa [names] using declared_of_foldlM hfold

end Histories

/-- A store in which every parameter has a value that it can have. -/
structure IsValid (specs : List (ParamSpec Rat)) (s : ParamStore Rat) : Prop where
  /-- No name occurs twice. -/
  nodup_names : s.names.Nodup
  /-- The names are those that are declared. -/
  mem_names : ∀ name, name ∈ s.names ↔ ∃ p ∈ specs, p.name = name
  /-- Every value is one that the parameter can have. -/
  shows : ∀ entry ∈ s.entries, entry.1 ∈ specs ∧ entry.1.Shows entry.2

variable {specs : List (ParamSpec Rat)} {s s' : ParamStore Rat}

theorem isValid_of_ofSpecs (h : ofSpecs specs = .ok s) : s.IsValid specs := by
  obtain ⟨hnames, hentries⟩ := declared_of_ofSpecs h
  refine ⟨nodup_names_ofSpecs h, hnames, ?_⟩
  intro entry hentry
  obtain ⟨hspecs, haccept⟩ := hentries entry hentry
  exact ⟨hspecs, ParamSpec.shows_of_accept haccept⟩

/-- Setting a parameter leaves a valid store valid. -/
theorem IsValid.set {name : String} {v previous : Value Rat} (hs : s.IsValid specs)
    (h : s.set name v = .ok (previous, s')) : s'.IsValid specs := by
  have hnames := names_of_set h
  refine ⟨hnames ▸ hs.nodup_names, fun other ↦ hnames ▸ hs.mem_names other, ?_⟩
  obtain ⟨p, w, hp, haccept, rfl⟩ := set_ok_iff.mp h
  intro entry hentry
  rcases eq_or_mem_of_mem_put hp hentry with rfl | hentry
  · have hspecs : p ∈ specs := (hs.shows _ (List.mem_of_find?_eq_some hp)).1
    exact ⟨hspecs, ParamSpec.shows_of_accept haccept⟩
  · exact hs.shows entry hentry

/-- A value that a parameter has in a valid store can be set again, which changes nothing. -/
theorem IsValid.set_get? {name : String} {v : Value Rat} (hs : s.IsValid specs)
    (h : s.get? name = some v) : s.set name v = .ok (v, s) := by
  obtain ⟨⟨p, w⟩, hp, rfl⟩ := Option.map_eq_some_iff.mp h
  have hshows : p.Shows w := (hs.shows _ (List.mem_of_find?_eq_some hp)).2
  refine set_ok_iff.mpr ⟨p, w, hp, ParamSpec.accept_of_shows hshows, ?_⟩
  rw [put_of_find? hp]

/-- A parameter with a slider is set to the stop that is nearest to the input. -/
theorem exists_isNearestStop_of_set {name : String} {p : ParamSpec Rat} {v previous : Value Rat}
    {min max : Rat} {step : Option Rat} (hp : s.entry? name = some (p, previous))
    (hbind : p.bind = some (.slider min max step)) (h : s.set name v = .ok (previous, s')) :
    ∃ x y, v.toFinite? = some x ∧ s'.get? name = some (.number y) ∧
      IsNearestStop min max step x y := by
  obtain ⟨p', w, hp', haccept, rfl⟩ := set_ok_iff.mp h
  obtain rfl : p = p' := congrArg Prod.fst (Option.some.inj (hp.symm.trans hp'))
  obtain ⟨x, y, hx, rfl, hy⟩ := ParamSpec.exists_isNearestStop_of_accept hbind haccept
  refine ⟨x, y, hx, ?_, hy⟩
  rw [get?, entry?, find?_put_of_find? hp']
  rfl

/-- Whatever has been set, accepted or not, a store lists every declared name once, and nothing
else.  Every value is one that the control of its parameter can show: a slider stands at a stop, an
option has been selected, a check box is on or off.  Setting a parameter to the value that it has is
accepted and changes nothing.  An input that a slider accepts, be it a new value or the initial one,
moves it to the nearest stop. -/
theorem run_shows {s₀ : ParamStore Rat} (h : ofSpecs specs = .ok s₀)
    (calls : List (String × Value Rat)) :
    let s := s₀.run calls
    s.names.Nodup ∧ (∀ name, name ∈ s.names ↔ ∃ p ∈ specs, p.name = name) ∧
    (∀ entry ∈ s.entries, entry.1 ∈ specs ∧ entry.1.Shows entry.2) ∧
    (∀ name v, s.get? name = some v → s.set name v = .ok (v, s)) ∧
    (∀ name p v previous s' min max step, s.entry? name = some (p, previous) →
      p.bind = some (.slider min max step) → s.set name v = .ok (previous, s') →
      ∃ x y, v.toFinite? = some x ∧ s'.get? name = some (.number y) ∧
        IsNearestStop min max step x y) ∧
    ∀ entry ∈ s₀.entries, ∀ min max step, entry.1.bind = some (.slider min max step) →
      ∃ x y, entry.1.value.toFinite? = some x ∧ entry.2 = .number y ∧
        IsNearestStop min max step x y := by
  intro s
  have hs : s.IsValid specs := run_induction (P := (IsValid specs))
    (fun _ _ _ _ _ hs hset ↦ hs.set hset) (isValid_of_ofSpecs h) calls
  refine ⟨hs.nodup_names, hs.mem_names, hs.shows, fun _ _ ↦ hs.set_get?, ?_, ?_⟩
  · intro name p v previous s' min max step hp hbind hset
    exact exists_isNearestStop_of_set hp hbind hset
  · intro entry hentry min max step hbind
    have haccept := ((declared_of_ofSpecs h).2 entry hentry).2
    exact ParamSpec.exists_isNearestStop_of_accept hbind haccept

/-! ### The controls of an oven

The heat goes in steps of four up to ten, so that eight is its last stop. -/

/-- The heat of the oven. -/
def ovenHeat : ParamSpec Rat := ⟨"heat", .string "9", some (.slider 0 10 (some 4))⟩

/-- An oven whose heat is declared twice, at first without a slider. -/
def ovenSpecs : List (ParamSpec Rat) :=
  [⟨"heat", .number 1, none⟩,
    ⟨"mode", .string "top", some (.select [.string "top", .string "both"])⟩,
    ⟨"fan", .number 1, some .checkbox⟩, ovenHeat]

/-- Calls of which the second one and the fourth one are refused. -/
def ovenCalls : List (String × Value Rat) :=
  [("heat", .number 3), ("heat", .number 11), ("fan", .number 0), ("mode", .string "grill")]

/-- The heat can be set to the value that it has, and the highest heat moves the slider to its last
stop. -/
theorem run_shows_oven : ∃ s₀, ofSpecs ovenSpecs = .ok s₀ ∧
    (s₀.run ovenCalls).get? "heat" = some (.number 4) ∧
    (s₀.run ovenCalls).set "heat" (.number 4) = .ok (.number 4, s₀.run ovenCalls) ∧
    ∃ s', (s₀.run ovenCalls).set "heat" (.number 10) = .ok (.number 4, s') ∧
      s'.get? "heat" = some (.number 8) ∧ IsNearestStop 0 10 (some 4) 10 8 := by
  have hcomputed : (ofSpecs ovenSpecs).toOption.map (fun s₀ ↦
      (ParamStore.entry? (s₀.run ovenCalls) "heat",
        ((s₀.run ovenCalls).set "heat" (.number 10)).toOption.map fun r ↦ (r.1, r.2.get? "heat"))) =
      some (some (ovenHeat, .number 4), some (.number 4, some (.number 8))) := by
    decide +kernel
  obtain ⟨s₀, hstart, hcomputed⟩ := exists_ok_of_map_eq_some hcomputed
  obtain ⟨hentry, hset⟩ := Prod.mk.inj hcomputed
  obtain ⟨⟨previous, s'⟩, hset, hresult⟩ := exists_ok_of_map_eq_some hset
  obtain ⟨rfl, hheat⟩ := Prod.mk.inj hresult
  have hget : (s₀.run ovenCalls).get? "heat" = some (.number 4) := by
    rw [get?, hentry]
    rfl
  obtain ⟨-, -, -, hagain, hnearest, -⟩ := run_shows hstart ovenCalls
  obtain ⟨x, y, hx, hy, hstop⟩ :=
    hnearest "heat" ovenHeat (.number 10) (.number 4) s' 0 10 (some 4) hentry rfl hset
  obtain rfl : 10 = x := Option.some.inj hx
  obtain rfl : 8 = y := Value.number.inj (Option.some.inj (hheat.symm.trans hy))
  exact ⟨s₀, hstart, hget, hagain "heat" (.number 4) hget, s', hset, hheat, hstop⟩

end ParamStore

end Charting
