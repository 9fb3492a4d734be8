import Charting.Interaction.LiveChart
import Charting.Proofs.Interaction.ParamStore

/-!
# Calls of live charts

A live chart is driven by calls, each of which can fail.  What holds of a chart and is preserved by
one call holds after any sequence of calls (`LiveChart.run_induction`), so that it is enough to know
what each call does.  The call to look at is the one that sets a parameter: it leaves the chart as
it was, or refreshes it with the new value (`LiveChart.assign_cases`).  All other calls leave the
scene alone (`LiveChart.call_cases`).
-/

namespace Charting

/-- What can be asked of a live chart. -/
inductive Call (R : Type) where
  /-- Set a parameter. -/
  | set (name : String) (v : Value R)
  /-- Add a subscriber. -/
  | subscribe (name : String)
  /-- Remove a subscriber. -/
  | unsubscribe (id : Nat)

variable {R : Type} [Scalar R]

namespace LiveChart

/-! ## Histories -/

/-- The chart that a call leaves behind, whether the call succeeds or not. -/
def call (c : LiveChart R) : Call R → LiveChart R
  | .set name v => (c.assign name v).chart
  | .subscribe name => (c.subscribe name).2
  | .unsubscribe id => (c.unsubscribe id).2

/-- The chart that a sequence of calls leaves behind. -/
def run (c : LiveChart R) (calls : List (Call R)) : LiveChart R := calls.foldl call c

/-- The identities of subscriptions that a sequence of calls hands out, in order. -/
def issued (c : LiveChart R) : List (Call R) → List Nat
  | [] => []
  | .set name v :: rest => (c.call (.set name v)).issued rest
  | .subscribe name :: rest => (c.subscribe name).1 :: (c.call (.subscribe name)).issued rest
  | .unsubscribe id :: rest => (c.call (.unsubscribe id)).issued rest

/-- What a chart is made from, which no call changes. -/
def inputs (c : LiveChart R) : ChartSpec R × Dataset R × Config R × TextMeasurer R :=
  (c.spec, c.data, c.config, c.measurer)

/-- What holds of a chart and is preserved by every call holds after any sequence of calls. -/
theorem run_induction {P : LiveChart R → Prop} (step : ∀ c x, P c → P (c.call x)) {c : LiveChart R}
    (hc : P c) (calls : List (Call R)) : P (c.run calls) := by
  induction calls generalizing c with
  | nil => exact hc
  | cons x rest ih => exact ih (step c x hc)

/-- A chart starts if its parameters are in order, its filters can be carried out and the rows that
pass them compile. -/
theorem start_ok_iff {spec : ChartSpec R} {data : Dataset R} {config : Config R}
    {measurer : TextMeasurer R} {c : LiveChart R} :
    start spec data config measurer = .ok c ↔
      ∃ params filtered scene, ParamStore.ofSpecs spec.params = .ok params ∧
        spec.filterData data params.get? = .ok filtered ∧
        spec.compile filtered config measurer = .ok scene ∧
        c = ⟨spec, data, config, measurer, params, scene, filtered.keys, [], 0⟩ := by
  constructor
  · intro h
    obtain ⟨params, hparams, h⟩ := bind_ok_iff.mp h
    obtain ⟨filtered, hfilter, h⟩ := bind_ok_iff.mp h
    obtain ⟨scene, hcompile, h⟩ := bind_ok_iff.mp h
    exact ⟨params, filtered, scene, hparams, hfilter, hcompile, (Except.ok.inj h).symm⟩
  · rintro ⟨params, filtered, scene, hparams, hfilter, hcompile, rfl⟩
    refine bind_ok_iff.mpr ⟨params, hparams, bind_ok_iff.mpr ⟨filtered, hfilter, ?_⟩⟩
    exact bind_ok_iff.mpr ⟨scene, hcompile, rfl⟩

/-! ## Setting a parameter -/

/-- Refreshing succeeds in two ways: the same rows pass as before and nothing changes, or others do
and compile. -/
theorem refresh_ok_iff {c c' : LiveChart R} :
    c.refresh = .ok c' ↔ ∃ filtered, c.spec.filterData c.data c.params.get? = .ok filtered ∧
      (filtered.keys = c.filteredKeys ∧ c' = c ∨
        filtered.keys ≠ c.filteredKeys ∧
          ∃ scene, c.spec.compile filtered c.config c.measurer = .ok scene ∧
            c' = { c with scene := scene, filteredKeys := filtered.keys }) := by
  rw [refresh, bind_ok_iff]
  refine exists_congr fun filtered ↦ and_congr_right fun _ ↦ ?_
  split
  · rename_i hkeys
    simp [hkeys, eq_comm]
  · rename_i hkeys
    simp [hkeys, bind_ok_iff, eq_comm (a := c')]

/-- Refreshing makes a new scene at most. -/
theorem refresh_frame {c c' : LiveChart R} (h : c.refresh = .ok c') :
    c'.inputs = c.inputs ∧ c'.params = c.params ∧ c'.subscribers = c.subscribers ∧
      c'.nextId = c.nextId := by
  obtain ⟨filtered, -, ⟨-, rfl⟩ | ⟨-, scene, -, rfl⟩⟩ := refresh_ok_iff.mp h
  · exact ⟨rfl, rfl, rfl, rfl⟩
  · exact ⟨rfl, rfl, rfl, rfl⟩

/-- A parameter of a copy is set if the store accepts the value and the chart refreshes with it. -/
theorem set_ok_iff {c c' : LiveChart R} {name : String} {v : Value R}
    {told : List (Notification R)} :
    c.set name v = .ok (c', told) ↔ ∃ previous params, c.params.set name v = .ok (previous, params) ∧
      refresh { c with params := params } = .ok c' ∧ told = c'.notifications := by
  rw [set, bind_ok_iff]
  constructor
  · rintro ⟨⟨previous, params⟩, hset, h⟩
    obtain ⟨c₁, hrefresh, h⟩ := bind_ok_iff.mp h
    obtain ⟨rfl, rfl⟩ := Prod.mk.inj (Except.ok.inj h)
    exact ⟨previous, params, hset, hrefresh, rfl⟩
  · rintro ⟨previous, params, hset, hrefresh, rfl⟩
    exact ⟨(previous, params), hset, bind_ok_iff.mpr ⟨c', hrefresh, rfl⟩⟩

/-- Setting a parameter in place comes to the same as setting it in a copy, which replaces the chart
only if nothing fails: what is put back after a failure is what was there before. -/
theorem assign_cases (c : LiveChart R) (name : String) (v : Value R) :
    (∃ e, c.set name v = .error e ∧ c.assign name v = ⟨.error e, c, []⟩) ∨
      ∃ c', c.set name v = .ok (c', c'.notifications) ∧
        c.assign name v = ⟨.ok c'.scene, c', c'.notifications⟩ := by
  rw [assign]
  cases hset : c.params.set name v with
  | error e =>
      refine .inl ⟨e, ?_, rfl⟩
      rw [set, hset]
      rfl
  | ok written =>
      obtain ⟨previous, params⟩ := written
      cases hrefresh : refresh { c with params := params } with
      | error e =>
          refine .inl ⟨e, ?_, ?_⟩
          · rw [set, hset]
            simp [bind, Except.bind, hrefresh]
          · simp only [hrefresh, ParamStore.restore_of_set hset]
      | ok c' =>
          refine .inr ⟨c', set_ok_iff.mpr ⟨previous, params, hset, hrefresh, rfl⟩, ?_⟩
          simp only [hrefresh]

/-- Setting a parameter in place leaves the subscriptions alone, and what the chart is made from. -/
theorem assign_frame (c : LiveChart R) (name : String) (v : Value R) :
    (c.assign name v).chart.inputs = c.inputs ∧
      (c.assign name v).chart.subscribers = c.subscribers ∧
      (c.assign name v).chart.nextId = c.nextId := by
  rcases assign_cases c name v with ⟨e, -, h⟩ | ⟨c', hset, h⟩
  · rw [h]
    exact ⟨rfl, rfl, rfl⟩
  · rw [h]
    obtain ⟨_, _, -, hrefresh, -⟩ := set_ok_iff.mp hset
    obtain ⟨hinputs, -, hsubscribers, hnextId⟩ := refresh_frame hrefresh
    exact ⟨hinputs, hsubscribers, hnextId⟩

/-- What a call does: it changes nothing but the subscriptions, or it refreshes the chart with other
values of its parameters. -/
theorem call_cases (c : LiveChart R) (x : Call R) :
    (∃ subscribers nextId, c.call x = { c with subscribers := subscribers, nextId := nextId }) ∨
      ∃ params, refresh { c with params := params } = .ok (c.call x) := by
  cases x with
  | set name v =>
      rw [call]
      rcases assign_cases c name v with ⟨e, -, h⟩ | ⟨c', hset, h⟩
      · rw [h]
        exact .inl ⟨c.subscribers, c.nextId, rfl⟩
      · rw [h]
        obtain ⟨_, params, -, hrefresh, -⟩ := set_ok_iff.mp hset
        exact .inr ⟨params, hrefresh⟩
  | subscribe name => exact .inl ⟨_, _, rfl⟩
  | unsubscribe id => exact .inl ⟨_, _, rfl⟩

/-- No call changes what the chart is made from. -/
theorem inputs_call (c : LiveChart R) (x : Call R) : (c.call x).inputs = c.inputs := by
  obtain ⟨_, _, h⟩ | ⟨params, h⟩ := call_cases c x
  · rw [h]
    rfl
  · exact (refresh_frame h).1

theorem inputs_run (c : LiveChart R) (calls : List (Call R)) : (c.run calls).inputs = c.inputs :=
  run_induction (P := fun c' ↦ c'.inputs = c.inputs) (fun c' x h ↦ (inputs_call c' x).trans h) rfl
    calls

end LiveChart

end Charting
