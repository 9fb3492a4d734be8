import Charting.Numeric.Exact
import Charting.Proofs.Data.Selection
import Charting.Proofs.Interaction.Calls

/-!
# The scene is current

Whatever the calls, the scene of a live chart is the one that the current values of the parameters
compile to (`LiveChart.run_isCurrent`).  A refresh that sees the same keys keeps the scene.  It may do
so because the rows are then the same as well: both are selections of data in which no key occurs
twice.
-/

namespace Charting

namespace LiveChart

variable {R : Type} [Scalar R]

/-- The scene is the one that the rows that pass the filters now compile to. -/
def IsCurrent (c : LiveChart R) : Prop :=
  ∃ filtered, c.spec.filterData c.data c.params.get? = .ok filtered ∧
    c.spec.compile filtered c.config c.measurer = .ok c.scene ∧ c.filteredKeys = filtered.keys

/-- A new chart is current. -/
theorem isCurrent_start {spec : ChartSpec R} {data : Dataset R} {config : Config R}
    {measurer : TextMeasurer R} {c : LiveChart R} (h : start spec data config measurer = .ok c) :
    c.IsCurrent ∧ c.inputs = (spec, data, config, measurer) := by
  obtain ⟨params, filtered, scene, -, hfilter, hcompile, rfl⟩ := start_ok_iff.mp h
  exact ⟨⟨filtered, hfilter, hcompile, rfl⟩, rfl⟩

/-- A current chart is current again when it has refreshed with other values of its parameters.  If
the keys of the rows that pass are the same as before then so are the rows, and the old scene is
theirs. -/
theorem IsCurrent.refresh {c c' : LiveChart R} (hc : c.IsCurrent) (distinct : c.data.keys.Nodup)
    {params : ParamStore R} (h : refresh { c with params := params } = .ok c') : c'.IsCurrent := by
  obtain ⟨old, hold, hscene, hkeys⟩ := hc
  obtain ⟨filtered, hfilter, ⟨hsame, rfl⟩ | ⟨-, scene, hcompile, rfl⟩⟩ := refresh_ok_iff.mp h
  · have heq : old = filtered := Dataset.IsSelection.eq_of_keys_eq distinct
      (ChartSpec.filterData_isSelection hold) (ChartSpec.filterData_isSelection hfilter)
      (hkeys.symm.trans hsame.symm)
    exact ⟨filtered, hfilter, heq ▸ hscene, hsame.symm⟩
  · exact ⟨filtered, hfilter, hcompile, rfl⟩

/-- A call leaves a current chart current. -/
theorem IsCurrent.call {c : LiveChart R} (hc : c.IsCurrent) (distinct : c.data.keys.Nodup)
    (x : Call R) : (c.call x).IsCurrent := by
  obtain ⟨_, _, h⟩ | ⟨params, h⟩ := call_cases c x
  · rw [h]
    exact hc
  · exact hc.refresh distinct h

/-- Any sequence of calls leaves a current chart current. -/
theorem IsCurrent.run {c : LiveChart R} (hc : c.IsCurrent) (distinct : c.data.keys.Nodup)
    (calls : List (Call R)) : (c.run calls).IsCurrent := by
  have step : ∀ (c' : LiveChart R) (x : Call R), c'.IsCurrent ∧ c'.inputs = c.inputs →
      (c'.call x).IsCurrent ∧ (c'.call x).inputs = c.inputs := by
    rintro c' x ⟨hc', heq⟩
    have hdata : c'.data = c.data := congrArg (·.2.1) heq
    exact ⟨hc'.call (hdata ▸ distinct) x, (inputs_call c' x).trans heq⟩
  exact (run_induction step ⟨hc, rfl⟩ calls).1

/-- What a current chart shows, in terms of what it is made from. -/
theorem IsCurrent.scene_eq {c : LiveChart R} (hc : c.IsCurrent) {spec : ChartSpec R}
    {data : Dataset R} {config : Config R} {measurer : TextMeasurer R}
    (h : c.inputs = (spec, data, config, measurer)) :
    ∃ filtered, spec.filterData data c.params.get? = .ok filtered ∧
      spec.compile filtered config measurer = .ok c.scene ∧ c.filteredKeys = filtered.keys := by
  simp only [inputs, Prod.mk.injEq] at h
  obtain ⟨rfl, rfl, rfl, rfl⟩ := h
  exact hc

/-- Whatever has been asked of a chart, its scene is the one that the current values of its
parameters compile to, and so depends on nothing else. -/
theorem run_isCurrent {spec : ChartSpec R} {data : Dataset R} {config : Config R}
    {measurer : TextMeasurer R} {c₀ : LiveChart R} (distinct : data.keys.Nodup)
    (hstart : start spec data config measurer = .ok c₀) (calls : List (Call R)) :
    (∃ filtered, spec.filterData data (c₀.run calls).params.get? = .ok filtered ∧
      spec.compile filtered config measurer = .ok (c₀.run calls).scene ∧
      (c₀.run calls).filteredKeys = filtered.keys) ∧
    ∀ calls' : List (Call R), (c₀.run calls').params.get? = (c₀.run calls).params.get? →
      (c₀.run calls').scene = (c₀.run calls).scene ∧
        (c₀.run calls').filteredKeys = (c₀.run calls).filteredKeys := by
  obtain ⟨hcurrent, hinputs⟩ := isCurrent_start hstart
  have hdata : c₀.data.keys.Nodup := by
    obtain rfl : c₀.data = data := congrArg (·.2.1) hinputs
    exact distinct
  have hrun := fun calls : List (Call R) ↦
    (hcurrent.run hdata calls).scene_eq ((inputs_run c₀ calls).trans hinputs)
  refine ⟨hrun calls, fun calls' heq ↦ ?_⟩
  obtain ⟨filtered, hfilter, hscene, hkeys⟩ := hrun calls
  obtain ⟨filtered', hfilter', hscene', hkeys'⟩ := hrun calls'
  obtain rfl : filtered' = filtered := by
    rw [heq, hfilter] at hfilter'
    exact (Except.ok.inj hfilter').symm
  exact ⟨Except.ok.inj (hscene'.symm.trans hscene), hkeys'.trans hkeys.symm⟩

/-! ### A chart of three towns

Towns with fewer inhabitants than a parameter says are left out.  Without any town there is no
vertical axis, so that not every value of the parameter can be shown. -/

/-- Three towns with their inhabitants. -/
def towns : Dataset Rat :=
  .ofRows [.untyped "pop"] [[.number 10], [.number 50], [.number 90]]

/-- A bar for every town that is large enough. -/
def townSpec : ChartSpec Rat :=
  { view := ⟨⟨.bar, none⟩, [.field (.plain .y "pop")], none, none⟩
    facet := .standard
    params := [⟨"least", .number 0, some (.slider 0 100 (some 1))⟩]
    filters := [.compare "pop" .ge (.param "least")] }

/-- Calls of which the first one changes the rows that pass, the second one keeps them, and the last
one fails, since no town is left. -/
def townCalls : List (Call Rat) :=
  [.set "least" (.number 40), .subscribe "reader", .set "least" (.number 45),
    .set "least" (.number 100)]

theorem start_towns : ∃ c₀, start townSpec towns .standard .heuristic = .ok c₀ :=
  exists_ok_of_isOk (by decide +kernel)

/-- The chart of the towns is current after calls that change its rows, keep them, and fail. -/
theorem run_isCurrent_towns : towns.keys.Nodup ∧
    ∃ c₀, start townSpec towns .standard .heuristic = .ok c₀ ∧
      ∃ filtered, townSpec.filterData towns (c₀.run townCalls).params.get? = .ok filtered ∧
        townSpec.compile filtered .standard .heuristic = .ok (c₀.run townCalls).scene ∧
        (c₀.run townCalls).filteredKeys = filtered.keys := by
  have distinct : towns.keys.Nodup := by decide
  obtain ⟨c₀, hstart⟩ := start_towns
  exact ⟨distinct, c₀, hstart, (run_isCurrent distinct hstart townCalls).1⟩

end LiveChart

end Charting
