import Charting.Proofs.Data.Names
import Charting.Proofs.Data.Rectangular
import Charting.Proofs.Scene.Facet
import Charting.Proofs.Scene.Plots

/-!
# Cells that are missing

A row that is too short has no value in some column, and grouping by this column comes to a missing
cell.  This is the only way in which a chart can come to one, so that over rectangular data no chart
does (`ChartSpec.findsCells_filterData`, `ChartSpec.findsCells_compile`): if it has no scene, then
because of a name that stands for nothing or because of a channel.
-/

namespace Charting

variable {R α β : Type}

/-- A computation comes to no missing cell. -/
def FindsCells (x : Except (CompileError R) α) : Prop :=
  ∀ key column, x ≠ .error (.data (.missingCell key column))

namespace FindsCells

theorem ok (a : α) : FindsCells (.ok a : Except (CompileError R) α) := fun _ _ h ↦ by cases h

/-- Two steps come to no missing cell if neither of them does. -/
theorem bind {x : Except (CompileError R) α} {f : α → Except (CompileError R) β} (hx : FindsCells x)
    (hf : ∀ a, x = .ok a → FindsCells (f a)) : FindsCells (x >>= f) := by
  intro key column h
  rcases bind_error_iff.mp h with h | ⟨a, ha, h⟩
  · exact hx key column h
  · exact hf a ha key column h

theorem map {x : Except (CompileError R) α} (hx : FindsCells x) (f : α → β) :
    FindsCells (x.map f) := fun key column h ↦ hx key column (map_error_iff.mp h)

/-- A step that is taken for every element comes to no missing cell if it never does. -/
theorem mapM {f : α → Except (CompileError R) β} {xs : List α} (hf : ∀ x ∈ xs, FindsCells (f x)) :
    FindsCells (xs.mapM f) := by
  intro key column h
  obtain ⟨x, hx, h⟩ := exists_error_of_mapM_error h
  exact hf x hx key column h

/-- An error about a channel tells of no missing cell. -/
theorem of_failsOn {c : Channel} {x : Except (CompileError R) α} (h : FailsOn c x) :
    FindsCells x := fun _ _ herror ↦ by cases h _ herror

/-- Unknown names are not missing cells. -/
theorem mapError {x : Except DataError α} (h : ∀ e, x = .error e → ∃ name, e = .unknownField name) :
    FindsCells (x.mapError .data : Except (CompileError R) α) := by
  intro key column herror
  obtain ⟨cause, hcause, heq⟩ := mapError_error_iff.mp herror
  obtain ⟨name, rfl⟩ := h cause hcause
  cases heq

end FindsCells

/-! ## Steps that do not look at rows -/

theorem ViewSpec.findsCells_checkChannels (view : ViewSpec R) : FindsCells view.checkChannels := by
  intro key column h
  obtain ⟨c, hc⟩ := ViewSpec.checkChannels_error h
  cases hc

variable [Scalar R]

/-! ## Filters -/

namespace ChartSpec

/-- Filters fail only at a name that stands for nothing. -/
theorem findsCells_filterData (spec : ChartSpec R) (data : Dataset R) (params : ParamLookup R) :
    FindsCells (spec.filterData data params) := by
  intro key column h
  obtain ⟨m, -, -, he⟩ := exists_reads_of_error h
  cases m <;> cases he

end ChartSpec

/-! ## Aggregation -/

namespace ViewSpec

variable {view : ViewSpec R} {data : Dataset R}

/-- The rows behind a group are found wherever the group is. -/
theorem groupMembers_error (h : data.IsRectangular) {e : DataError}
    (herror : view.groupMembers data = .error e) : ∃ name, e = .unknownField name := by
  rcases bind_error_iff.mp herror with herror | ⟨columns, hcolumns, herror⟩
  · obtain ⟨name, -, herror⟩ := exists_error_of_mapM_error herror
    exact ⟨name, Dataset.column_error herror⟩
  rcases bind_error_iff.mp herror with herror | ⟨groups, -, herror⟩
  · exact absurd herror (h.groupRows_ne_error hcolumns e)
  · cases herror

theorem findsCells_prepare (h : data.IsRectangular) : FindsCells (view.prepare data) := by
  rw [prepare]
  split
  case isTrue => exact .ok _
  case isFalse =>
    refine .bind ?_ fun _ _ ↦ .bind (.mapError fun e ↦ h.aggregate_error) fun result _ ↦
      .bind (.mapError fun e ↦ groupMembers_error h) fun members _ ↦ .ok _
    intro key column herror
    obtain ⟨b, -, herror⟩ := exists_error_of_forM_error herror
    rw [FieldBinding.checkField] at herror
    split at herror <;> cases herror

/-- What a view is drawn over is rectangular if its data is. -/
theorem isRectangular_of_prepare (h : data.IsRectangular) {p : PreparedView R}
    (hp : view.prepare data = .ok p) : p.data.IsRectangular := by
  rcases prepare_ok hp with ⟨-, rfl⟩ | ⟨-, -, haggregate, -⟩
  · exact h
  · exact haggregate.isRectangular

/-! ## Resolution -/

theorem findsCells_resolve (view : ViewSpec R) (data : Dataset R) (rows : List (Row R))
    (extent : Size R) (config : Config R) :
    FindsCells (view.resolve data rows extent config) :=
  .bind view.findsCells_checkChannels fun _ _ ↦ .mapM fun _ _ ↦ .of_failsOn Binding.failsOn_resolve

end ViewSpec

/-! ## Cells of a grid -/

theorem FacetAxis.findsCells_ofBinding (data : Dataset R) (rows : List (Row R))
    (b : FieldBinding R) : FindsCells (ofBinding data rows b) := by
  refine .of_failsOn (c := b.channel) ?_
  rw [ofBinding]
  split
  · exact .bind (Channel.failsOn_checkAccepts _ _) fun _ ↦ .ok _
  · exact .error rfl

theorem findsCells_partition (data : Dataset R) (rows : List (Row R))
    (column row : Option (FieldBinding R)) : FindsCells (partition data rows column row) := by
  have haxis : ∀ b, FindsCells (FacetAxis.ofBinding? data rows b) := by
    rintro (_ | b)
    · exact .ok _
    · exact FacetAxis.findsCells_ofBinding data rows b
  exact .bind (haxis column) fun _ _ ↦ .bind (haxis row) fun _ _ ↦ .ok _

/-! ## Drawing -/

namespace PreparedView

variable (p : PreparedView R) (size : Size R) (config : Config R)

theorem findsCells_marks (encodings : Encodings R) (rows : List (Row R)) :
    FindsCells (p.marks encodings rows size config) := by
  refine .map (.bind (fun key column h ↦ ?_) fun _ _ ↦ .ok _) _
  rw [MarkKind.checkChannels] at h
  split at h <;> cases h

theorem findsCells_plots (cells : List (FacetCell R)) (independent : Bool) :
    FindsCells (p.plots cells independent size config) := by
  have hresolve : ∀ rows, FindsCells (p.resolve rows size config) := fun rows ↦
    p.view.findsCells_resolve p.data rows size config
  rw [plots]
  split
  · refine .mapM fun cell _ ↦ ?_
    rw [plotAlone]
    split
    · exact .ok _
    · exact .bind (hresolve _) fun _ _ ↦ .bind (p.findsCells_marks size config _ _) fun _ _ ↦ .ok _
  · exact .bind (hresolve _) fun _ _ ↦ .mapM fun cell _ ↦
      .bind (p.findsCells_marks size config _ _) fun _ _ ↦ .ok _

end PreparedView

/-! ## Compilation -/

/-- A chart over rectangular data comes to no missing cell. -/
theorem ChartSpec.findsCells_compile (spec : ChartSpec R) {data : Dataset R}
    (h : data.IsRectangular) (config : Config R) (m : TextMeasurer R) :
    FindsCells (spec.compile data config m) :=
  .bind spec.view.findsCells_checkChannels fun _ _ ↦
    .bind (ViewSpec.findsCells_prepare h) fun p _ ↦
      .bind (findsCells_partition _ _ _ _) fun _ _ ↦
        .bind (p.findsCells_plots _ _ _ _) fun _ _ ↦ .ok _

end Charting
