import Charting.Interaction.Params
import Charting.Proofs.Data.Filtering

/-!
# Unknown names

A test mentions fields and parameters, and nobody looks at their names before the test is run.  When
it is run on a row it comes to some of them, in order: a conjunction goes no further than the first
test that fails, and a list of operands no further than the first that is met.  `Predicate.Reads`
says which names these are.

A test has no outcome exactly if it comes to a name that stands for nothing
(`Predicate.failsAtUnknown`), so that such a name is never taken for a failed test where it is read.
Names that are not read can be anything, in a test as in the filters of a chart
(`ChartSpec.filterData_error_iff_reads`).
-/

namespace Charting

variable {R : Type}

/-- A name in a test. -/
inductive Mention where
  /-- The name of a field. -/
  | field (name : String)
  /-- The name of a parameter. -/
  | param (name : String)
deriving DecidableEq, Repr

namespace Mention

/-- Whether a name stands for no column, or for no parameter that has a value. -/
def IsUnknown (data : Dataset R) (params : ParamLookup R) : Mention → Prop
  | field name => data.columnIndex? name = none
  | param name => params name = none

/-- Whether a test mentions a name. -/
def IsIn (p : Predicate R) : Mention → Prop
  | field name => name ∈ p.fields
  | param name => name ∈ p.params

instance (p : Predicate R) : DecidablePred (IsIn p)
  | field name => inferInstanceAs (Decidable (name ∈ p.fields))
  | param name => inferInstanceAs (Decidable (name ∈ p.params))

/-- Why a name cannot be read. -/
def error : Mention → DataError
  | field name => .unknownField name
  | param name => .unknownParam name

end Mention

namespace Predicate

variable [Scalar R] {data : Dataset R} {i : Nat} {params : ParamLookup R}

/-! ## Where a name is read -/

section Operands

omit [Scalar R]

/-- A cell cannot be found exactly if its field is unknown. -/
theorem cellOf_error_iff {field : String} {e : DataError} :
    cellOf data i field = .error e ↔ data.columnIndex? field = none ∧ e = .unknownField field := by
  rw [cellOf, Dataset.column]
  cases data.columnIndex? field with
  | none => simp [bind, Except.bind, eq_comm]
  | some column => simp [bind, Except.bind]

/-- An operand has no value exactly if it is an unknown parameter. -/
theorem resolve_error_iff {operand : Operand R} {e : DataError} :
    operand.resolve params = .error e ↔
      ∃ name, operand = .param name ∧ params name = none ∧ e = .unknownParam name := by
  cases operand with
  | value v => simp [Operand.resolve]
  | param name =>
      rw [Operand.resolve]
      cases h : params name with
      | none => simp [h, eq_comm]
      | some v => simp [h]

end Operands

/-- A search among operands has no outcome exactly if it comes to an unknown parameter before it
meets the value. -/
theorem matchesAny_error_iff {v : Value R} {values : List (Operand R)} {e : DataError} :
    matchesAny params v values = .error e ↔ ∃ before name after,
      values = before ++ .param name :: after ∧ matchesAny params v before = .ok false ∧
      params name = none ∧ e = .unknownParam name := by
  induction values with
  | nil => simp [matchesAny]
  | cons operand values ih =>
      rw [matchesAny, bind_error_iff]
      constructor
      · rintro (h | ⟨w, hw, h⟩)
        · obtain ⟨name, rfl, hname⟩ := resolve_error_iff.mp h
          exact ⟨[], name, values, rfl, rfl, hname⟩
        · -- The operand has a value; if this is met, the search ends without an error.
          split at h
          · cases h
          · obtain ⟨before, name, after, rfl, hbefore, hname⟩ := ih.mp h
            refine ⟨operand :: before, name, after, rfl, ?_, hname⟩
            rw [matchesAny, bind_ok_iff]
            exact ⟨w, hw, by rwa [if_neg ‹_›]⟩
      · rintro ⟨before, name, after, hvalues, hbefore, hname⟩
        cases before with
        | nil =>
            obtain ⟨rfl, -⟩ := List.cons.inj hvalues
            exact .inl (resolve_error_iff.mpr ⟨name, rfl, hname⟩)
        | cons _ before =>
            obtain ⟨rfl, rfl⟩ := List.cons.inj hvalues
            rw [matchesAny, bind_ok_iff] at hbefore
            obtain ⟨w, hw, hbefore⟩ := hbefore
            refine .inr ⟨w, hw, ?_⟩
            split at hbefore
            · cases hbefore
            · rw [if_neg ‹_›]
              exact ih.mpr ⟨before, name, after, rfl, hbefore, hname⟩

/-- A conjunction holds exactly if all its tests do. -/
theorem evalAll_eq_true_iff {all : List (Predicate R)} :
    evalAll data i params all = .ok true ↔ ∀ p ∈ all, p.eval data i params = .ok true := by
  induction all with
  | nil => simp [evalAll]
  | cons p all ih =>
      rw [evalAll, bind_ok_iff, List.forall_mem_cons, ← ih]
      constructor
      · rintro ⟨b, hb, h⟩
        cases b with
        | false => cases h
        | true => exact ⟨hb, h⟩
      · exact fun ⟨hp, hall⟩ ↦ ⟨true, hp, hall⟩

/-- A conjunction has no outcome exactly if it comes to a test without one. -/
theorem evalAll_error_iff {all : List (Predicate R)} {e : DataError} :
    evalAll data i params all = .error e ↔ ∃ before p after, all = before ++ p :: after ∧
      (∀ q ∈ before, q.eval data i params = .ok true) ∧ p.eval data i params = .error e := by
  induction all with
  | nil => simp [evalAll]
  | cons p all ih =>
      rw [evalAll, bind_error_iff]
      constructor
      · rintro (h | ⟨b, hb, h⟩)
        · exact ⟨[], p, all, rfl, by simp, h⟩
        · cases b with
          | false => cases h
          | true =>
              obtain ⟨before, q, after, rfl, hbefore, hq⟩ := ih.mp h
              exact ⟨p :: before, q, after, rfl, List.forall_mem_cons.mpr ⟨hb, hbefore⟩, hq⟩
      · rintro ⟨before, q, after, hall, hbefore, hq⟩
        cases before with
        | nil =>
            obtain ⟨rfl, -⟩ := List.cons.inj hall
            exact .inl hq
        | cons _ before =>
            obtain ⟨rfl, rfl⟩ := List.cons.inj hall
            obtain ⟨hp, hbefore⟩ := List.forall_mem_cons.mp hbefore
            exact .inr ⟨true, hp, ih.mpr ⟨before, q, after, rfl, hbefore, hq⟩⟩

/-! ## The names that a test reads -/

/-- The names that a test comes to on a row. -/
inductive Reads (data : Dataset R) (i : Nat) (params : ParamLookup R) :
    Predicate R → Mention → Prop
  /-- A comparison reads its field. -/
  | compareField {field op rhs} : Reads data i params (compare field op rhs) (.field field)
  /-- A comparison then reads the parameter that it compares with. -/
  | compareParam {field op name v} (hv : cellOf data i field = .ok v) :
      Reads data i params (compare field op (.param name)) (.param name)
  /-- A search among operands reads its field. -/
  | oneOfField {field values} : Reads data i params (oneOf field values) (.field field)
  /-- A search then reads the parameters up to the first operand that is met. -/
  | oneOfParam {field values before name after v} (hv : cellOf data i field = .ok v)
      (hvalues : values = before ++ .param name :: after)
      (hbefore : matchesAny params v before = .ok false) :
      Reads data i params (oneOf field values) (.param name)
  /-- A range reads its field. -/
  | rangeField {field min max} : Reads data i params (range field min max) (.field field)
  /-- A range then reads its lower end. -/
  | rangeMin {field name max v} (hv : cellOf data i field = .ok v) :
      Reads data i params (range field (.param name) max) (.param name)
  /-- A range at last reads its upper end. -/
  | rangeMax {field min name v lo} (hv : cellOf data i field = .ok v)
      (hlo : min.resolve params = .ok lo) :
      Reads data i params (range field min (.param name)) (.param name)
  /-- A negation reads what its test reads. -/
  | not {p m} (h : Reads data i params p m) : Reads data i params (not p) m
  /-- A conjunction reads what its tests read, up to the first that fails. -/
  | and {all before p after m} (hall : all = before ++ p :: after)
      (hbefore : ∀ q ∈ before, q.eval data i params = .ok true) (h : Reads data i params p m) :
      Reads data i params (and all) m

section Mentions

omit [Scalar R]

theorem fieldsAll_eq (all : List (Predicate R)) : fieldsAll all = all.flatMap fields := by
  induction all with
  | nil => rfl
  | cons p all ih => rw [fieldsAll, List.flatMap_cons, ih]

theorem paramsAll_eq (all : List (Predicate R)) : paramsAll all = all.flatMap Predicate.params := by
  induction all with
  | nil => rfl
  | cons p all ih => rw [paramsAll, List.flatMap_cons, ih]

/-- A conjunction mentions what its tests mention. -/
theorem isIn_and {m : Mention} {p : Predicate R} {all : List (Predicate R)} (hp : p ∈ all)
    (h : m.IsIn p) : m.IsIn (and all) := by
  cases m with
  | field name =>
      rw [Mention.IsIn, fields, fieldsAll_eq]
      exact List.mem_flatMap.mpr ⟨p, hp, h⟩
  | param name =>
      rw [Mention.IsIn, Predicate.params, paramsAll_eq]
      exact List.mem_flatMap.mpr ⟨p, hp, h⟩

end Mentions

/-- A test reads only names that it mentions. -/
theorem Reads.isIn {p : Predicate R} {m : Mention} (h : p.Reads data i params m) : m.IsIn p := by
  induction h with
  | compareField | oneOfField | rangeField => exact List.mem_singleton_self _
  | compareParam _ => exact List.mem_singleton_self _
  | @oneOfParam _ _ _ name _ _ _ hvalues _ =>
      refine List.mem_flatMap.mpr ⟨.param name, ?_, List.mem_singleton_self _⟩
      exact hvalues ▸ List.mem_append_cons_self
  | rangeMin _ => exact List.mem_append_left _ (List.mem_singleton_self _)
  | rangeMax _ _ => exact List.mem_append_right _ (List.mem_singleton_self _)
  | @not _ m _ ih => cases m <;> exact ih
  | and hall _ _ ih => exact isIn_and (hall ▸ List.mem_append_cons_self) ih

/-! ## Tests without an outcome -/

/-- The errors of a test on a row are the unknown names that it comes to there. -/
def FailsAtUnknown (data : Dataset R) (i : Nat) (params : ParamLookup R) (p : Predicate R) : Prop :=
  ∀ e, p.eval data i params = .error e ↔
    ∃ m, p.Reads data i params m ∧ m.IsUnknown data params ∧ e = m.error

theorem failsAtUnknown_compare (field : String) (op : CompareOp) (rhs : Operand R) :
    (compare field op rhs).FailsAtUnknown data i params := by
  intro e
  rw [eval, bind_error_iff, cellOf_error_iff]
  constructor
  · rintro (h | ⟨v, hv, h⟩)
    · exact ⟨_, .compareField, h⟩
    · rcases bind_error_iff.mp h with h | ⟨w, -, h⟩
      · obtain ⟨name, rfl, hname⟩ := resolve_error_iff.mp h
        exact ⟨_, .compareParam hv, hname⟩
      · cases h
  · rintro ⟨m, hm, h⟩
    cases hm with
    | compareField => exact .inl h
    | compareParam hv =>
        exact .inr ⟨_, hv, bind_error_iff.mpr (.inl (resolve_error_iff.mpr ⟨_, rfl, h⟩))⟩

theorem failsAtUnknown_oneOf (field : String) (values : List (Operand R)) :
    (oneOf field values).FailsAtUnknown data i params := by
  intro e
  rw [eval, bind_error_iff, cellOf_error_iff]
  constructor
  · rintro (h | ⟨v, hv, h⟩)
    · exact ⟨_, .oneOfField, h⟩
    · obtain ⟨before, name, after, hvalues, hbefore, hname⟩ := matchesAny_error_iff.mp h
      exact ⟨_, .oneOfParam hv hvalues hbefore, hname⟩
  · rintro ⟨m, hm, h⟩
    cases hm with
    | oneOfField => exact .inl h
    | oneOfParam hv hvalues hbefore =>
        exact .inr ⟨_, hv, matchesAny_error_iff.mpr ⟨_, _, _, hvalues, hbefore, h⟩⟩

theorem failsAtUnknown_range (field : String) (min max : Operand R) :
    (range field min max).FailsAtUnknown data i params := by
  intro e
  rw [eval, bind_error_iff, cellOf_error_iff]
  constructor
  · rintro (h | ⟨v, hv, h⟩)
    · exact ⟨_, .rangeField, h⟩
    · rcases bind_error_iff.mp h with h | ⟨lo, hlo, h⟩
      · obtain ⟨name, rfl, hname⟩ := resolve_error_iff.mp h
        exact ⟨_, .rangeMin hv, hname⟩
      · rcases bind_error_iff.mp h with h | ⟨hi, -, h⟩
        · obtain ⟨name, rfl, hname⟩ := resolve_error_iff.mp h
          exact ⟨_, .rangeMax hv hlo, hname⟩
        · cases h
  · rintro ⟨m, hm, h⟩
    cases hm with
    | rangeField => exact .inl h
    | rangeMin hv =>
        exact .inr ⟨_, hv, bind_error_iff.mpr (.inl (resolve_error_iff.mpr ⟨_, rfl, h⟩))⟩
    | rangeMax hv hlo =>
        exact .inr ⟨_, hv, bind_error_iff.mpr (.inr ⟨_, hlo, bind_error_iff.mpr
          (.inl (resolve_error_iff.mpr ⟨_, rfl, h⟩))⟩)⟩

theorem FailsAtUnknown.not {p : Predicate R} (hp : p.FailsAtUnknown data i params) :
    (not p).FailsAtUnknown data i params := by
  intro e
  rw [eval, bind_error_iff, hp e]
  constructor
  · rintro (⟨m, hm, h⟩ | ⟨b, -, h⟩)
    · exact ⟨m, .not hm, h⟩
    · cases h
  · rintro ⟨m, hm, h⟩
    cases hm with
    | not hm => exact .inl ⟨m, hm, h⟩

theorem FailsAtUnknown.and {all : List (Predicate R)}
    (hall : ∀ p ∈ all, p.FailsAtUnknown data i params) :
    (and all).FailsAtUnknown data i params := by
  intro e
  rw [eval, evalAll_error_iff]
  constructor
  · rintro ⟨before, p, after, hsplit, hbefore, h⟩
    have hp : p ∈ all := hsplit ▸ List.mem_append_cons_self
    obtain ⟨m, hm, h⟩ := (hall p hp e).mp h
    exact ⟨m, .and hsplit hbefore hm, h⟩
  · rintro ⟨m, hm, h⟩
    cases hm with
    | @and _ before p after _ hsplit hbefore hm =>
        have hp : p ∈ all := hsplit ▸ List.mem_append_cons_self
        exact ⟨before, p, after, hsplit, hbefore, (hall p hp e).mpr ⟨m, hm, h⟩⟩

mutual

/-- A test has no outcome on a row exactly if it comes to an unknown name there. -/
theorem failsAtUnknown (p : Predicate R) : p.FailsAtUnknown data i params := by
  cases p with
  | compare field op rhs => exact failsAtUnknown_compare field op rhs
  | oneOf field values => exact failsAtUnknown_oneOf field values
  | range field min max => exact failsAtUnknown_range field min max
  | not p => exact (failsAtUnknown p).not
  | and all => exact .and (forall_mem_failsAtUnknown all)

/-- Each test of a list has no outcome on a row exactly if it comes to an unknown name there. -/
theorem forall_mem_failsAtUnknown (all : List (Predicate R)) :
    ∀ p ∈ all, p.FailsAtUnknown data i params := by
  cases all with
  | nil => exact List.forall_mem_nil _
  | cons p all =>
      exact List.forall_mem_cons.mpr ⟨failsAtUnknown p, forall_mem_failsAtUnknown all⟩

end

end Predicate

namespace ChartSpec

variable [Scalar R]

/-! ## The filters of a chart -/

/-- The names that the filters of a chart come to: on each row those of the filters up to the first
that fails. -/
def Reads (spec : ChartSpec R) (data : Dataset R) (params : ParamLookup R) (m : Mention) : Prop :=
  ∃ i ∈ data.indices, ∃ before p after, spec.filters = before ++ p :: after ∧
    (∀ q ∈ before, q.eval data i params = .ok true) ∧ p.Reads data i params m

variable {spec : ChartSpec R} {data : Dataset R} {params : ParamLookup R}

/-- The filters of a chart come only to names that they mention. -/
theorem Reads.exists_isIn {m : Mention} (hm : spec.Reads data params m) :
    ∃ p ∈ spec.filters, m.IsIn p := by
  obtain ⟨i, -, before, p, after, hfilters, -, hm⟩ := hm
  exact ⟨p, hfilters ▸ List.mem_append_cons_self, hm.isIn⟩

/-- Where the filters of a chart come to an unknown name, they fail. -/
theorem exists_error_of_reads {m : Mention} (hm : spec.Reads data params m)
    (hunknown : m.IsUnknown data params) : ∃ e, spec.filterData data params = .error e := by
  obtain ⟨i, hi, before, p, after, hfilters, hbefore, hm⟩ := hm
  cases h : spec.filterData data params with
  | error e => exact ⟨e, rfl⟩
  | ok part =>
      have heval := (Dataset.filter_ok_iff.mp (filterData_ok_iff.mp h)).1 i hi
      have herror : (Predicate.and spec.filters).eval data i params = .error m.error :=
        (Predicate.failsAtUnknown _ _).mpr ⟨m, .and hfilters hbefore hm, hunknown, rfl⟩
      obtain ⟨b, hb⟩ := heval
      rw [herror] at hb
      cases hb

/-- What the filters of a chart fail with is that they have come to an unknown name. -/
theorem exists_reads_of_error {e : CompileError R} (h : spec.filterData data params = .error e) :
    ∃ m, spec.Reads data params m ∧ m.IsUnknown data params ∧ e = .data m.error := by
  obtain ⟨before, p, after, part, hfilters, hpart, h⟩ := foldlM_error_iff.mp h
  obtain ⟨e, herror, rfl⟩ := mapError_error_iff.mp h
  obtain ⟨j, hj, heval⟩ := Dataset.exists_eval_error_of_filter_error herror
  obtain ⟨row, hrow⟩ : ∃ row, part.rows[j]? = some row :=
    ⟨_, List.getElem?_eq_getElem (List.mem_range.mp hj)⟩
  -- The row that the filter fails on has been left by the filters before it.
  have hpart : ({ spec with filters := before } : ChartSpec R).filterData data params = .ok part :=
    hpart
  obtain ⟨-, hselect⟩ := Dataset.filter_ok_iff.mp (filterData_ok_iff.mp hpart)
  have hfields : part.fields = data.fields := (filterData_isSelection hpart).fields_eq
  have hmem : row ∈ part.rows := List.mem_of_getElem? hrow
  rw [hselect] at hmem
  obtain ⟨i, hi, hrow'⟩ := List.mem_filterMap.mp hmem
  obtain ⟨hi, hpasses⟩ := List.mem_filter.mp hi
  have hbefore : ∀ q ∈ before, q.eval data i params = .ok true :=
    Predicate.evalAll_eq_true_iff.mp (passes_eq_true_iff.mp hpasses)
  rw [Predicate.eval_congr params hfields (hrow.trans hrow'.symm)] at heval
  obtain ⟨m, hm, hunknown, rfl⟩ := (Predicate.failsAtUnknown p _).mp heval
  exact ⟨m, ⟨i, hi, before, p, after, hfilters, hbefore, hm⟩, hunknown, rfl⟩

/-- The filters of a chart fail exactly if they come to an unknown name, and then say which name of
a filter this is. -/
theorem filterData_error_iff_reads (spec : ChartSpec R) (data : Dataset R)
    (params : ParamLookup R) :
    ((∃ e, spec.filterData data params = .error e) ↔
      ∃ m, spec.Reads data params m ∧ m.IsUnknown data params) ∧
    ∀ e, spec.filterData data params = .error e →
      ∃ m, (∃ p ∈ spec.filters, m.IsIn p) ∧ spec.Reads data params m ∧
        m.IsUnknown data params ∧ e = .data m.error := by
  refine ⟨⟨?_, ?_⟩, fun e he ↦ ?_⟩
  · rintro ⟨e, he⟩
    obtain ⟨m, hm, hunknown, -⟩ := exists_reads_of_error he
    exact ⟨m, hm, hunknown⟩
  · rintro ⟨m, hm, hunknown⟩
    exact exists_error_of_reads hm hunknown
  · obtain ⟨m, hm, hunknown, rfl⟩ := exists_reads_of_error he
    exact ⟨m, hm.exists_isIn, hm, hunknown, rfl⟩

/-! ### Jars

A chart leaves out jars of unripe figs, but jars have no ripeness. -/

/-- A jar. -/
def jar (content : String) : Dataset Rat := ⟨[.untyped "content"], [⟨0, [.string content]⟩], 1⟩

/-- Every jar but those of unripe figs. -/
def jarSpec : ChartSpec Rat :=
  { view := ⟨⟨.point, none⟩, [], none, none⟩
    facet := .standard
    params := []
    filters := [.not (.and [.compare "content" .eq (.value (.string "figs")),
      .compare "ripeness" .eq (.value (.number 0))])] }

/-- A jar of figs is asked for its ripeness. -/
theorem filterData_error_iff_reads_figs :
    jarSpec.filterData (jar "figs") (fun _ ↦ none) = .error (.data (.unknownField "ripeness")) ∧
      jarSpec.Reads (jar "figs") (fun _ ↦ none) (.field "ripeness") := by
  have hfail : jarSpec.filterData (jar "figs") (fun _ ↦ none) =
      .error (.data (.unknownField "ripeness")) := by
    rfl
  obtain ⟨-, hall⟩ := filterData_error_iff_reads jarSpec (jar "figs") fun _ ↦ none
  obtain ⟨m, -, hm, -, he⟩ := hall _ hfail
  cases m with
  | field name =>
      obtain rfl : "ripeness" = name := DataError.unknownField.inj (CompileError.data.inj he)
      exact ⟨hfail, hm⟩
  | param name => cases he

/-- It is not so that every unknown name in a filter is found: nobody asks a jar of plums for its
ripeness. -/
theorem not_forall_isUnknown_error :
    ¬ ∀ (spec : ChartSpec Rat) (data : Dataset Rat) (store : ParamStore Rat),
      (∃ p ∈ spec.filters, ∃ m : Mention, m.IsIn p ∧ m.IsUnknown data store.get?) →
        ∃ e, spec.filterData data store.get? = .error e := by
  intro h
  have hkept : (jarSpec.filterData (jar "plums") (ParamStore.get? ⟨[]⟩)).isOk = true := by
    decide +kernel
  obtain ⟨part, hpart⟩ := exists_ok_of_isOk hkept
  obtain ⟨e, he⟩ := h jarSpec (jar "plums") ⟨[]⟩
    ⟨_, List.mem_singleton_self _, .field "ripeness", by decide, rfl⟩
  rw [hpart] at he
  cases he

end ChartSpec

end Charting
