import Charting.Proofs.Interaction.Current

/-!
# Parameters that nothing reads

A test has the same outcome, or fails in the same way, under any two assignments of values to
parameters that agree on the parameters that it names (`Predicate.eval_of_agree`).  The names are
listed by one traversal of a test and the values are read by another, which stops early; what the
first one lists is all that the second one can come across.

So the rows that pass the filters of a live chart are the same after a parameter has been set that
no filter names, and the chart, which compares them with the rows that it has, keeps its scene.
-/

namespace Charting

variable {R : Type} [Scalar R]

/-! ## Tests -/

section Agreement

variable {params params' : ParamLookup R}

omit [Scalar R] in
/-- An operand reads the parameter that it names, if it names one. -/
theorem Operand.resolve_of_agree {operand : Operand R}
    (h : ∀ name ∈ operand.params, params name = params' name) :
    operand.resolve params = operand.resolve params' := by
  cases operand with
  | value v => rfl
  | param name => rw [resolve, resolve, h name (List.mem_singleton.mpr rfl)]

namespace Predicate

/-- The operands up to the first match read no more than all of them name. -/
theorem matchesAny_of_agree (v : Value R) {operands : List (Operand R)}
    (h : ∀ name ∈ operands.flatMap Operand.params, params name = params' name) :
    matchesAny params v operands = matchesAny params' v operands := by
  induction operands with
  | nil => rfl
  | cons operand rest ih =>
      rw [List.flatMap_cons, List.forall_mem_append] at h
      rw [matchesAny, matchesAny, Operand.resolve_of_agree h.1, ih h.2]

variable (data : Dataset R) (i : Nat)

mutual

/-- A test has the same outcome if the parameters that it names have the same values. -/
theorem eval_of_agree (p : Predicate R) (h : ∀ name ∈ p.params, params name = params' name) :
    p.eval data i params = p.eval data i params' := by
  cases p with
  | compare field op rhs => rw [eval, eval, Operand.resolve_of_agree h]
  | oneOf field values =>
      rw [eval, eval]
      exact congrArg _ (funext fun v ↦ matchesAny_of_agree v h)
  | range field min max =>
      rw [Predicate.params, List.forall_mem_append] at h
      rw [eval, eval, Operand.resolve_of_agree h.1, Operand.resolve_of_agree h.2]
  | not p => rw [eval, eval, eval_of_agree p h]
  | and all => rw [eval, eval, evalAll_of_agree all h]

/-- Tests have the same outcome if the parameters that they name have the same values. -/
theorem evalAll_of_agree (all : List (Predicate R))
    (h : ∀ name ∈ paramsAll all, params name = params' name) :
    evalAll data i params all = evalAll data i params' all := by
  cases all with
  | nil => rfl
  | cons p rest =>
      rw [paramsAll, List.forall_mem_append] at h
      rw [evalAll, evalAll, eval_of_agree p h.1, evalAll_of_agree rest h.2]

end

end Predicate

/-- The same rows pass a filter if the parameters that it names have the same values. -/
theorem Dataset.filter_of_agree (data : Dataset R) {p : Predicate R}
    (h : ∀ name ∈ p.params, params name = params' name) :
    data.filter p params = data.filter p params' := by
  rw [filter, filter, funext fun i ↦ p.eval_of_agree data i h]

/-- The same rows pass the filters of a chart if the parameters that they name have the same
values. -/
theorem ChartSpec.filterData_of_agree (spec : ChartSpec R) (data : Dataset R)
    (h : ∀ p ∈ spec.filters, ∀ name ∈ p.params, params name = params' name) :
    spec.filterData data params = spec.filterData data params' := by
  rw [filterData, filterData]
  generalize spec.filters = filters at h
  induction filters generalizing data with
  | nil => rfl
  | cons p rest ih =>
      rw [List.forall_mem_cons] at h
      rw [List.foldlM_cons, List.foldlM_cons, data.filter_of_agree h.1]
      exact congrArg _ (funext fun part ↦ ih part h.2)

end Agreement

/-! ## Charts -/

namespace LiveChart

/-- A chart knows which rows pass its filters now.  It does even where keys do not tell rows apart,
so that its scene may be out of date. -/
def KnowsRows (c : LiveChart R) : Prop :=
  ∃ filtered, c.spec.filterData c.data c.params.get? = .ok filtered ∧
    c.filteredKeys = filtered.keys

theorem knowsRows_start {spec : ChartSpec R} {data : Dataset R} {config : Config R}
    {measurer : TextMeasurer R} {c : LiveChart R} (h : start spec data config measurer = .ok c) :
    c.KnowsRows := by
  obtain ⟨filtered, hfilter, -, hkeys⟩ := (isCurrent_start h).1
  exact ⟨filtered, hfilter, hkeys⟩

/-- A chart that has refreshed knows its rows, whatever it knew before. -/
theorem knowsRows_of_refresh {c c' : LiveChart R} (h : c.refresh = .ok c') : c'.KnowsRows := by
  obtain ⟨filtered, hfilter, ⟨hkeys, rfl⟩ | ⟨-, scene, -, rfl⟩⟩ := refresh_ok_iff.mp h
  · exact ⟨filtered, hfilter, hkeys.symm⟩
  · exact ⟨filtered, hfilter, rfl⟩

theorem KnowsRows.call {c : LiveChart R} (hc : c.KnowsRows) (x : Call R) :
    (c.call x).KnowsRows := by
  obtain ⟨_, _, h⟩ | ⟨params, h⟩ := call_cases c x
  · rw [h]
    exact hc
  · exact knowsRows_of_refresh h

/-- A chart knows its rows after any sequence of calls. -/
theorem KnowsRows.run {c : LiveChart R} (hc : c.KnowsRows) (calls : List (Call R)) :
    (c.run calls).KnowsRows :=
  run_induction (fun _ x h ↦ h.call x) hc calls

/-- Setting a parameter that no filter names fails only if the value is refused, and changes nothing
but the value of the parameter. -/
theorem KnowsRows.assign_unread {c : LiveChart R} (hc : c.KnowsRows) {name : String}
    (hname : ∀ p ∈ c.spec.filters, name ∉ p.params) {v previous : Value R} {params : ParamStore R}
    (hset : c.params.set name v = .ok (previous, params)) :
    c.assign name v = ⟨.ok c.scene, { c with params := params }, c.notifications⟩ := by
  obtain ⟨filtered, hfilter, hkeys⟩ := hc
  have hagree : ∀ p ∈ c.spec.filters, ∀ other ∈ p.params, params.get? other = c.params.get? other :=
    fun p hp other hother ↦
      ParamStore.get?_of_set hset fun heq ↦ hname p hp (heq ▸ hother)
  have hsame : c.spec.filterData c.data params.get? = .ok filtered :=
    (c.spec.filterData_of_agree c.data hagree).trans hfilter
  have hrefresh : refresh { c with params := params } = .ok { c with params := params } :=
    refresh_ok_iff.mpr ⟨filtered, hsame, .inl ⟨hkeys.symm, rfl⟩⟩
  simp only [assign, hset, hrefresh]
  rfl

/-- A parameter has no influence where it is not named.  A test has the same outcome, or fails in
the same way, whatever the values of other parameters than those that it names.  Setting a parameter
that no filter of a chart names, whatever has been asked of the chart before, leaves the chart with
the rows and the scene that it has; the answer is this scene, unless the value is refused. -/
theorem unread_params_have_no_influence :
    (∀ (p : Predicate R) (data : Dataset R) (i : Nat) (params params' : ParamLookup R),
      (∀ name ∈ p.params, params name = params' name) →
        p.eval data i params = p.eval data i params') ∧
    ∀ (spec : ChartSpec R) (data : Dataset R) (config : Config R) (measurer : TextMeasurer R)
      (c₀ : LiveChart R), start spec data config measurer = .ok c₀ →
      ∀ (calls : List (Call R)) (name : String), (∀ p ∈ spec.filters, name ∉ p.params) →
      ∀ v, (∀ scene, ((c₀.run calls).assign name v).answer = .ok scene →
          scene = (c₀.run calls).scene ∧
          ((c₀.run calls).assign name v).chart.scene = (c₀.run calls).scene ∧
          ((c₀.run calls).assign name v).chart.filteredKeys = (c₀.run calls).filteredKeys) ∧
        ((∃ scene, ((c₀.run calls).assign name v).answer = .ok scene) ↔
          ∃ written, (c₀.run calls).params.set name v = .ok written) := by
  refine ⟨fun p data i params params' h ↦ p.eval_of_agree data i h, ?_⟩
  intro spec data config measurer c₀ hstart calls name hname v
  have hspec : (c₀.run calls).spec = spec :=
    congrArg (·.1) ((inputs_run c₀ calls).trans (isCurrent_start hstart).2)
  have hrows := (knowsRows_start hstart).run calls
  rw [← hspec] at hname
  generalize c₀.run calls = c at hname hrows
  cases hset : c.params.set name v with
  | error e =>
      have hassign : c.assign name v = ⟨.error e, c, []⟩ := by simp only [assign, hset]
      simp [hassign]
  | ok written =>
      rw [hrows.assign_unread hname hset]
      refine ⟨fun scene hscene ↦ ⟨(Except.ok.inj hscene).symm, rfl, rfl⟩, ?_⟩
      exact iff_of_true ⟨_, rfl⟩ ⟨_, rfl⟩

/-- The chart of the towns with one more parameter, which says how dark the bars are to be. -/
def shadedTownSpec : ChartSpec Rat :=
  { townSpec with params := townSpec.params ++ [⟨"shade", .number 1, none⟩] }

/-- A darker shade leaves the same towns in the chart. -/
theorem unread_params_have_no_influence_towns :
    ∃ c₀ scene, start shadedTownSpec towns .standard .heuristic = .ok c₀ ∧
      (∀ p ∈ shadedTownSpec.filters, "shade" ∉ p.params) ∧
      ((c₀.run townCalls).assign "shade" (.number 5)).answer = .ok scene ∧
      scene = (c₀.run townCalls).scene ∧
      ((c₀.run townCalls).assign "shade" (.number 5)).chart.filteredKeys =
        (c₀.run townCalls).filteredKeys ∧
      (Predicate.compare "pop" .ge (.param "least")).eval towns 1 (c₀.run townCalls).params.get? =
        (Predicate.compare "pop" .ge (.param "least")).eval towns 1
          fun name ↦ if name = "shade" then none else (c₀.run townCalls).params.get? name := by
  have hshaded : (start shadedTownSpec towns .standard .heuristic).toOption.map (fun c ↦
      ((c.run townCalls).assign "shade" (.number 5)).answer.isOk) = some true := by
    decide +kernel
  obtain ⟨c₀, hstart, hshaded⟩ := exists_ok_of_map_eq_some hshaded
  obtain ⟨scene, hscene⟩ := exists_ok_of_isOk hshaded
  have hname : ∀ p ∈ shadedTownSpec.filters, "shade" ∉ p.params := by
    intro p hp
    obtain rfl : p = .compare "pop" .ge (.param "least") := List.mem_singleton.mp hp
    decide
  obtain ⟨heval, hcharts⟩ := unread_params_have_no_influence (R := Rat)
  obtain ⟨hscene', -, hkeys⟩ :=
    (hcharts _ _ _ _ c₀ hstart townCalls _ hname (.number 5)).1 scene hscene
  refine ⟨c₀, scene, hstart, hname, hscene, hscene', hkeys, ?_⟩
  refine heval _ _ _ _ _ fun name hmem ↦ ?_
  obtain rfl : name = "least" := List.mem_singleton.mp hmem
  rfl

end LiveChart

end Charting
