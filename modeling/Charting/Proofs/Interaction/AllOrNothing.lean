import Charting.Proofs.Interaction.Current

/-!
# All or nothing

A call that sets a parameter either changes the value of this parameter and tells every subscriber,
or leaves nothing behind (`LiveChart.assign_all_or_nothing`).  Subscribers are known from their
identities, since these are handed out in increasing order.
-/

namespace Charting

namespace LiveChart

variable {R : Type} [Scalar R]

/-! ## Subscriptions -/

/-- No identity is handed out that could have been handed out before. -/
theorem nextId_le_of_mem_issued {calls : List (Call R)} {c : LiveChart R} {id : Nat}
    (h : id ∈ c.issued calls) : c.nextId ≤ id := by
  induction calls generalizing c with
  | nil => cases h
  | cons x rest ih =>
      cases x with
      | set name v => exact (assign_frame c name v).2.2 ▸ ih h
      | subscribe name =>
          rw [issued] at h
          rcases List.mem_cons.mp h with rfl | h
          · exact Nat.le_refl c.nextId
          · exact Nat.le_of_succ_le (ih h)
      | unsubscribe id => exact ih (c := (c.unsubscribe id).2) h

/-- Every subscription has a greater identity than all before it. -/
theorem issued_pairwise (c : LiveChart R) (calls : List (Call R)) :
    (c.issued calls).Pairwise (· < ·) := by
  induction calls generalizing c with
  | nil => exact .nil
  | cons x rest ih =>
      cases x with
      | set name v => exact ih (c.assign name v).chart
      | subscribe name =>
          exact .cons (fun id hid ↦ nextId_le_of_mem_issued hid) (ih (c.subscribe name).2)
      | unsubscribe id => exact ih (c.unsubscribe id).2

/-- The subscribers are those who were there before and those who have subscribed since, in this
order, but for those who have left. -/
theorem subscribers_run (c : LiveChart R) (calls : List (Call R)) :
    ((c.run calls).subscribers.map (·.id)).Sublist
      (c.subscribers.map (·.id) ++ c.issued calls) := by
  induction calls generalizing c with
  | nil => simp [run]
  | cons x rest ih =>
      refine (ih (c.call x)).trans ?_
      cases x with
      | set name v =>
          refine List.Sublist.append_right ?_ _
          rw [call, (assign_frame c name v).2.1]
      | subscribe name => simp [call, subscribe, issued]
      | unsubscribe id => exact (List.filter_sublist.map _).append_right _

omit [Scalar R] in
/-- Unsubscribing removes the one subscriber with an identity, or nobody if there is none. -/
theorem unsubscribe_cases {c : LiveChart R} (hids : (c.subscribers.map (·.id)).Nodup) (id : Nat) :
    (∃ before s after, c.subscribers = before ++ s :: after ∧ s.id = id ∧
      c.unsubscribe id = (true, { c with subscribers := before ++ after })) ∨
    (∀ s ∈ c.subscribers, s.id ≠ id) ∧ c.unsubscribe id = (false, c) := by
  by_cases h : ∃ s ∈ c.subscribers, s.id = id
  · obtain ⟨s, hs, rfl⟩ := h
    obtain ⟨before, after, hsplit⟩ := List.append_of_mem hs
    refine .inl ⟨before, s, after, hsplit, rfl, ?_⟩
    rw [hsplit, List.map_append, List.map_cons, List.nodup_middle, List.nodup_cons] at hids
    have hothers : ∀ t ∈ before ++ after, t.id ≠ s.id := by
      intro t ht heq
      rw [← List.map_append] at hids
      exact hids.1 (List.mem_map.mpr ⟨t, ht, heq⟩)
    rw [List.forall_mem_append] at hothers
    rw [unsubscribe, hsplit, List.filter_append, List.filter_cons_of_neg (by simp),
      List.filter_eq_self.mpr fun t ht ↦ by simpa using hothers.1 t ht,
      List.filter_eq_self.mpr fun t ht ↦ by simpa using hothers.2 t ht]
    simp
  · rw [not_exists] at h
    have hnone : ∀ s ∈ c.subscribers, s.id ≠ id := fun s hs heq ↦ h s ⟨hs, heq⟩
    refine .inr ⟨hnone, ?_⟩
    rw [unsubscribe, List.filter_eq_self.mpr fun s hs ↦ by simpa using hnone s hs]
    exact Prod.ext (by simpa using hnone) rfl

/-! ## All or nothing -/

/-- Setting a parameter keeps the names of the parameters. -/
theorem names_assign (c : LiveChart R) (name : String) (v : Value R) :
    (c.assign name v).chart.params.names = c.params.names := by
  rcases assign_cases c name v with ⟨e, -, h⟩ | ⟨c', hset, h⟩
  · rw [h]
  · rw [h]
    obtain ⟨previous, params, hparams, hrefresh, -⟩ := set_ok_iff.mp hset
    rw [(refresh_frame hrefresh).2.1]
    exact ParamStore.names_of_set hparams

/-- No name is listed twice, whatever has been asked of a chart. -/
theorem nodup_names_run {spec : ChartSpec R} {data : Dataset R} {config : Config R}
    {measurer : TextMeasurer R} {c₀ : LiveChart R}
    (hstart : start spec data config measurer = .ok c₀) (calls : List (Call R)) :
    (c₀.run calls).params.names.Nodup := by
  have step : ∀ (c : LiveChart R) (x : Call R), c.params.names.Nodup →
      (c.call x).params.names.Nodup := by
    intro c x hc
    cases x with
    | set name v => exact names_assign c name v ▸ hc
    | subscribe name => exact hc
    | unsubscribe id => exact hc
  refine run_induction step ?_ calls
  obtain ⟨params, filtered, scene, hparams, -, -, rfl⟩ := start_ok_iff.mp hstart
  exact ParamStore.nodup_names_ofSpecs hparams

/-- What a successful call that sets a parameter leaves behind. -/
structure IsAssigned (c : LiveChart R) (name : String) (scene : Scene R) (a : Assignment R) :
    Prop where
  /-- The chart shows the scene that is answered. -/
  scene_eq : a.chart.scene = scene
  /-- Every subscriber is told of it once, in the order of subscription. -/
  told_eq : a.told = c.subscribers.map fun s ↦ ⟨s, scene⟩
  /-- The declarations of the parameters are as before. -/
  specs_eq : a.chart.params.entries.map (·.1) = c.params.entries.map (·.1)
  /-- All other parameters have the values that they had. -/
  get?_eq : ∀ other, other ≠ name → a.chart.params.get? other = c.params.get? other
  /-- Nobody has subscribed or left. -/
  subscribers_eq : a.chart.subscribers = c.subscribers
  /-- The next subscription will be identified as it would have been. -/
  nextId_eq : a.chart.nextId = c.nextId
  /-- The chart is made from the same. -/
  inputs_eq : a.chart.inputs = c.inputs

/-- A call that sets a parameter changes nothing else. -/
theorem isAssigned_of_set {c c' : LiveChart R} {name : String} {v : Value R}
    (h : c.set name v = .ok (c', c'.notifications)) :
    c.IsAssigned name c'.scene ⟨.ok c'.scene, c', c'.notifications⟩ := by
  obtain ⟨previous, params, hparams, hrefresh, -⟩ := set_ok_iff.mp h
  obtain ⟨hinputs, hvalues, hsubscribers, hnextId⟩ := refresh_frame hrefresh
  refine ⟨rfl, ?_, ?_, fun other hne ↦ ?_, hsubscribers, hnextId, hinputs⟩
  · exact congrArg (List.map fun s ↦ Notification.mk s c'.scene) hsubscribers
  · rw [hvalues]
    exact ParamStore.specs_of_set hparams
  · rw [hvalues]
    exact ParamStore.get?_of_set hparams hne

/-- Setting a parameter either fails, and then nothing has changed and nobody is told, or succeeds,
and then nothing else has changed and everybody is told.  The subscribers stand in the order in
which their identities were handed out, no identity is handed out twice, and unsubscribing removes
exactly the subscriber with an identity. -/
theorem assign_all_or_nothing {spec : ChartSpec R} {data : Dataset R} {config : Config R}
    {measurer : TextMeasurer R} {c₀ : LiveChart R}
    (hstart : start spec data config measurer = .ok c₀) (calls : List (Call R)) (name : String)
    (v : Value R) :
    let c := c₀.run calls
    (∀ e, (c.assign name v).answer = .error e →
      (c.assign name v).chart = c ∧ (c.assign name v).told = []) ∧
    (∀ scene, (c.assign name v).answer = .ok scene →
      c.IsAssigned name scene (c.assign name v)) ∧
    c.params.names.Nodup ∧
    (c₀.issued calls).Pairwise (· < ·) ∧
    (c.subscribers.map (·.id)).Sublist (c₀.issued calls) ∧
    ∀ id,
      (∃ before s after, c.subscribers = before ++ s :: after ∧ s.id = id ∧
        c.unsubscribe id = (true, { c with subscribers := before ++ after })) ∨
      (∀ s ∈ c.subscribers, s.id ≠ id) ∧ c.unsubscribe id = (false, c) := by
  intro c
  have hissued := issued_pairwise c₀ calls
  have hsubscribers : (c.subscribers.map (·.id)).Sublist (c₀.issued calls) := by
    have hnone : c₀.subscribers = [] := by
      obtain ⟨params, filtered, scene, -, -, -, rfl⟩ := start_ok_iff.mp hstart
      rfl
    simpa [hnone] using subscribers_run c₀ calls
  have hids : (c.subscribers.map (·.id)).Nodup :=
    (hissued.imp (fun h ↦ Nat.ne_of_lt h)).sublist hsubscribers
  refine ⟨?_, ?_, nodup_names_run hstart calls, hissued, hsubscribers, unsubscribe_cases hids⟩
  · intro e he
    rcases assign_cases c name v with ⟨e', -, h⟩ | ⟨c', -, h⟩
    · rw [h]
      exact ⟨rfl, rfl⟩
    · rw [h] at he
      cases he
  · intro scene hscene
    rcases assign_cases c name v with ⟨e', -, h⟩ | ⟨c', hset, h⟩
    · rw [h] at hscene
      cases hscene
    · rw [h] at hscene ⊢
      obtain rfl : c'.scene = scene := Except.ok.inj hscene
      exact isAssigned_of_set hset

/-- No town has a hundred inhabitants: then the parameter keeps its value, and nobody is told.  Some
have ten, and then the reader is told. -/
theorem assign_all_or_nothing_towns :
    ∃ c₀ e scene, start townSpec towns .standard .heuristic = .ok c₀ ∧
      ((c₀.run townCalls).assign "least" (.number 100)).answer = .error e ∧
      ((c₀.run townCalls).assign "least" (.number 100)).chart = c₀.run townCalls ∧
      ((c₀.run townCalls).assign "least" (.number 100)).told = [] ∧
      ((c₀.run townCalls).assign "least" (.number 10)).answer = .ok scene ∧
      ((c₀.run townCalls).assign "least" (.number 10)).told = [⟨⟨0, "reader"⟩, scene⟩] ∧
      (c₀.run townCalls).IsAssigned "least" scene
        ((c₀.run townCalls).assign "least" (.number 10)) := by
  have hanswers : (start townSpec towns .standard .heuristic).toOption.map (fun c ↦
      (((c.run townCalls).assign "least" (.number 100)).answer.isOk,
        ((c.run townCalls).assign "least" (.number 10)).answer.isOk,
        (c.run townCalls).subscribers)) = some (false, true, [⟨0, "reader"⟩]) := by
    decide +kernel
  obtain ⟨c₀, hstart, hanswers⟩ := exists_ok_of_map_eq_some hanswers
  obtain ⟨hfails, hanswers⟩ := Prod.mk.inj hanswers
  obtain ⟨hsucceeds, hsubscribers⟩ := Prod.mk.inj hanswers
  have hfailed := (assign_all_or_nothing hstart townCalls "least" (.number 100)).1
  obtain ⟨scene, hscene⟩ := exists_ok_of_isOk hsucceeds
  have hassigned :=
    (assign_all_or_nothing hstart townCalls "least" (.number 10)).2.1 scene hscene
  cases he : ((c₀.run townCalls).assign "least" (.number 100)).answer with
  | ok scene =>
      rw [he] at hfails
      cases hfails
  | error e =>
      obtain ⟨hchart, htold⟩ := hfailed e he
      refine ⟨c₀, e, scene, hstart, he, hchart, htold, hscene, ?_, hassigned⟩
      rw [hassigned.told_eq, hsubscribers]
      rfl

end LiveChart

end Charting
