import Mathlib.Data.List.Nodup
import Charting.Encoding.Resolution
import Charting.Proofs.Success

/-!
# Errors of bindings

Bindings are resolved one after another, and a view fails with the first binding that does
(`ViewSpec.resolve_error_iff`).  The error names the channel of this binding, whether its field is
missing, does not suit the channel, or cannot be given a scale (`Binding.failsOn_resolve`).  So an
error that names a channel which is bound once comes from its binding.
-/

namespace Charting

variable {R α β : Type}

/-! ## Channels of a view -/

/-- No channel is repeated in a list if none occurs twice in it or has been seen before. -/
theorem repeatedChannel?_eq_none_iff {seen channels : List Channel} :
    repeatedChannel? seen channels = none ↔ channels.Nodup ∧ ∀ c ∈ channels, c ∉ seen := by
  induction channels generalizing seen with
  | nil => simp [repeatedChannel?]
  | cons c channels ih =>
      rw [repeatedChannel?]
      by_cases hc : c ∈ seen
      · simp [hc]
      · rw [if_neg hc, ih, List.nodup_cons, List.forall_mem_cons]
        constructor
        · rintro ⟨hnodup, hfresh⟩
          refine ⟨⟨fun hmem ↦ hfresh c hmem List.mem_cons_self, hnodup⟩, hc, fun c' hc' hseen ↦ ?_⟩
          exact hfresh c' hc' (List.mem_cons_of_mem c hseen)
        · rintro ⟨⟨hnotMem, hnodup⟩, -, hfresh⟩
          refine ⟨hnodup, fun c' hc' hseen ↦ ?_⟩
          rcases List.mem_cons.mp hseen with rfl | hseen
          · exact hnotMem hc'
          · exact hfresh c' hc' hseen

namespace ViewSpec

/-- No channel is bound twice if the channels of all bindings but texts for hovering are
distinct. -/
theorem checkChannels_ok_iff {view : ViewSpec R} : view.checkChannels = .ok () ↔
    ((view.encodings.map Binding.channel).filter (· != .tooltip)).Nodup := by
  have hnone : repeatedChannel? []
      ((view.encodings.map Binding.channel).filter (· != .tooltip)) = none ↔ _ :=
    repeatedChannel?_eq_none_iff
  rw [checkChannels]
  cases hfound : repeatedChannel? []
      ((view.encodings.map Binding.channel).filter (· != .tooltip)) with
  | none => simpa [hfound] using hnone
  | some c => simpa [hfound] using hnone

/-- A channel that is bound twice is named. -/
theorem checkChannels_error {view : ViewSpec R} {e : CompileError R}
    (h : view.checkChannels = .error e) : ∃ c, e = .duplicateChannel c := by
  unfold checkChannels at h
  split at h
  · exact ⟨_, (Except.error.inj h).symm⟩
  · cases h

/-- What is bound to a channel is found there if no channel is bound twice. -/
theorem binding?_of_mem {view : ViewSpec R} (h : view.checkChannels = .ok ()) {b : Binding R}
    (hb : b ∈ view.encodings) (htooltip : b.channel ≠ .tooltip) :
    view.binding? b.channel = some b := by
  have hnodup := checkChannels_ok_iff.mp h
  rw [List.filter_map] at hnodup
  have hb' : b ∈ view.encodings.filter ((· != .tooltip) ∘ Binding.channel) :=
    List.mem_filter.mpr ⟨hb, by simpa using htooltip⟩
  obtain ⟨other, hother⟩ : ∃ other, view.binding? b.channel = some other :=
    Option.isSome_iff_exists.mp (List.find?_isSome.mpr ⟨b, hb, beq_self_eq_true _⟩)
  have hchannel : other.channel = b.channel := by simpa using List.find?_some hother
  have hother' : other ∈ view.encodings.filter ((· != .tooltip) ∘ Binding.channel) :=
    List.mem_filter.mpr ⟨List.mem_of_find?_eq_some hother, by simpa [hchannel] using htooltip⟩
  rw [hother, List.inj_on_of_nodup_map hnodup hother' hb' hchannel]

/-- A field that is bound to a channel is found there if no channel is bound twice. -/
theorem field?_of_mem {view : ViewSpec R} (h : view.checkChannels = .ok ()) {b : FieldBinding R}
    (hb : .field b ∈ view.encodings) (htooltip : b.channel ≠ .tooltip) :
    view.field? b.channel = some b := by
  have hfound : view.binding? b.channel = some (.field b) := binding?_of_mem h hb htooltip
  rw [field?, hfound]
  rfl

end ViewSpec

/-! ## Channels of errors -/

/-- The channel that an error is about, if it is about one. -/
def CompileError.channel? : CompileError R → Option Channel
  | incompatibleType c _ | invalidRange c _ _ | incompatibleRange c | emptyDomain c _
  | invalidDomain c | unknownField c _ | duplicateChannel c | invalidConstant c _ => some c
  | missingRequiredChannel _ _ | unknownParam _ | invalidParamValue _ _ | data _ => none

/-- If a computation fails, then its error is about a channel. -/
def FailsOn (c : Channel) (x : Except (CompileError R) α) : Prop :=
  ∀ e, x = .error e → e.channel? = some c

namespace FailsOn

variable {c : Channel}

theorem ok (a : α) : FailsOn c (.ok a : Except (CompileError R) α) := fun _ h ↦ by cases h

theorem error {e : CompileError R} (h : e.channel? = some c) :
    FailsOn c (.error e : Except (CompileError R) α) := by
  rintro _ ⟨⟩
  exact h

/-- Two steps that fail on a channel do so one after the other. -/
theorem bind {x : Except (CompileError R) α} {f : α → Except (CompileError R) β}
    (hx : FailsOn c x) (hf : ∀ a, FailsOn c (f a)) : FailsOn c (x >>= f) := by
  intro e h
  rcases bind_error_iff.mp h with h | ⟨a, -, h⟩
  · exact hx e h
  · exact hf a e h

theorem map {x : Except (CompileError R) α} (hx : FailsOn c x) (f : α → β) :
    FailsOn c (x.map f) := fun e h ↦ hx e (map_error_iff.mp h)

end FailsOn

/-! ## Scales -/

namespace ScaleRequest

variable (req : ScaleRequest R)

/-- The kind of a scale may not suit the field. -/
theorem failsOn_scaleKind (spec : ScaleSpec R) : FailsOn req.channel (req.scaleKind spec) := by
  unfold scaleKind
  extract_lets kind
  split
  · exact .error rfl
  · exact .ok _

/-- A domain that is given for a continuous scale may not be an interval. -/
theorem failsOn_givenEnds (domain : Option (DomainOverride R)) :
    FailsOn req.channel (req.givenEnds domain) := by
  unfold givenEnds
  split
  · exact .ok _
  · exact .ok _
  · exact .ok _
  · exact .error rfl

variable [Scalar R]

/-- The ends of an interval may not be readable, or there may be nothing to read. -/
theorem failsOn_rawDomain (kind : ScaleKind) (ends : Option (Value R × Value R))
    (values : List (Value R)) : FailsOn req.channel (req.rawDomain kind ends values) := by
  unfold rawDomain
  extract_lets read
  split
  · split
    · split
      · exact .error rfl
      · exact .ok _
    · exact .error rfl
  · split
    · exact .ok _
    · exact .error rfl

/-- A range of numbers may not be given, or be the wrong way round. -/
theorem failsOn_numericRange (given : Option (RangeOverride R)) (config : Config R) :
    FailsOn req.channel (req.numericRange given config) := by
  unfold numericRange
  split
  · split
    · split
      · exact .error rfl
      · exact .ok _
    · exact .error rfl
  · exact .error rfl

/-- A range may be of another kind than a continuous scale needs. -/
theorem failsOn_continuousRange (given : Option (RangeOverride R)) (config : Config R) :
    FailsOn req.channel (req.continuousRange given config) := by
  have hnumeric := failsOn_numericRange req given config
  unfold continuousRange
  split
  · exact .ok _
  · exact .ok _
  · exact .error rfl
  · exact .bind hnumeric fun _ ↦ .ok _

/-- A range may be of another kind than a discrete scale needs. -/
theorem failsOn_discreteRange (given : Option (RangeOverride R)) (n : Nat) (config : Config R) :
    FailsOn req.channel (req.discreteRange given n config) := by
  have hnumeric := failsOn_numericRange req given config
  unfold discreteRange
  split
  all_goals first
    | exact .ok _
    | exact .error rfl
    | exact .bind hnumeric fun _ ↦ .ok _

/-- A scale cannot be made only because of what is shown on its channel. -/
theorem failsOn_synthesize (values : List (Value R)) (spec : ScaleSpec R)
    (sort : Option (SortOrder R)) (config : Config R) :
    FailsOn req.channel (req.synthesize values spec sort config) := by
  refine .bind (failsOn_scaleKind req spec) fun kind ↦ ?_
  split
  · refine .bind (failsOn_givenEnds req spec.domain) fun ends ↦ ?_
    refine .bind (failsOn_rawDomain req kind ends values) fun domain ↦ ?_
    exact .bind (failsOn_continuousRange req spec.range config) fun _ ↦ .ok _
  · unfold discreteScale
    extract_lets domain
    split
    · exact .error rfl
    · exact .bind (failsOn_discreteRange req spec.range _ config) fun _ ↦ .ok _

end ScaleRequest

theorem Channel.checkAccepts_ok_iff {c : Channel} {t : DataType} :
    (c.checkAccepts t : Except (CompileError R) Unit) = .ok () ↔ c.accepts t = true := by
  rw [checkAccepts]
  cases c.accepts t <;> simp

theorem Channel.checkAccepts_error_iff {c : Channel} {t : DataType} {e : CompileError R} :
    c.checkAccepts t = .error e ↔ c.accepts t = false ∧ e = .incompatibleType c t := by
  rw [checkAccepts]
  cases c.accepts t <;> simp [eq_comm]

/-- A channel that does not accept a field is named. -/
theorem Channel.failsOn_checkAccepts (c : Channel) (t : DataType) :
    FailsOn c (c.checkAccepts t : Except (CompileError R) Unit) := by
  intro e h
  obtain ⟨-, rfl⟩ := checkAccepts_error_iff.mp h
  rfl

variable [Scalar R]

/-! ## Bindings -/

namespace FieldBinding

/-- The field that is bound, of which at least the name is known. -/
def fieldIn (b : FieldBinding R) (data : Dataset R) : Field :=
  (data.field? b.field).getD (.untyped b.field)

/-- The level of measurement of a binding over some rows. -/
def typeOver (b : FieldBinding R) (data : Dataset R) (rows : List (Row R)) (column : Nat) :
    DataType :=
  DataType.classify (b.fieldIn data) (rows.filterMap (·.values[column]?)) b.type

/-- A level that is not declared is inferred. -/
theorem typeOver_of_not_declared {b : FieldBinding R} {data : Dataset R} (htype : b.type = none)
    (hdeclared : (b.fieldIn data).declared = none) (rows : List (Row R)) (column : Nat) :
    b.typeOver data rows column = DataType.infer (rows.filterMap (·.values[column]?)) := by
  unfold typeOver DataType.classify
  rw [htype, hdeclared]

/-- What a scale is made for over some rows. -/
def requestOver (b : FieldBinding R) (mark : MarkKind) (data : Dataset R) (rows : List (Row R))
    (column : Nat) (extent : Size R) : ScaleRequest R :=
  ⟨b.channel, b.field, b.typeOver data rows column, (b.fieldIn data).kind, mark, extent⟩

/-- The scale of a binding over some rows, if its channel has one. -/
def scaleOver (b : FieldBinding R) (mark : MarkKind) (data : Dataset R) (rows : List (Row R))
    (column : Nat) (extent : Size R) (config : Config R) :
    Except (CompileError R) (Option (Scale R)) :=
  if b.channel.hasScale then
    ((b.requestOver mark data rows column extent).synthesize (rows.filterMap (·.values[column]?))
      b.scale b.sort config).map some
  else .ok none

variable {b : FieldBinding R} {mark : MarkKind} {data : Dataset R} {rows : List (Row R)}
  {extent : Size R} {config : Config R}

/-- A binding is resolved by finding its field, checking that it suits the channel, and making a
scale. -/
theorem resolve_of_columnIndex? {column : Nat} (hcolumn : data.columnIndex? b.field = some column) :
    b.resolve mark data rows extent config = (do
      b.channel.checkAccepts (b.typeOver data rows column)
      let scale ← b.scaleOver mark data rows column extent config
      .ok ⟨b, column, b.typeOver data rows column, (b.fieldIn data).kind, scale⟩) := by
  rw [resolve, hcolumn, scaleOver]
  change b.resolveIn mark column (b.fieldIn data) _ extent config = _
  rw [resolveIn]
  cases b.channel.hasScale <;> rfl

theorem resolve_of_columnIndex?_none (hcolumn : data.columnIndex? b.field = none) :
    b.resolve mark data rows extent config = .error (.unknownField b.channel b.field) := by
  rw [resolve, hcolumn]

/-- An encoding is that of its binding. -/
theorem binding_of_resolve {f : FieldEncoding R}
    (h : b.resolve mark data rows extent config = .ok f) : f.binding = b := by
  cases hcolumn : data.columnIndex? b.field with
  | none =>
      rw [resolve_of_columnIndex?_none hcolumn] at h
      cases h
  | some column =>
      rw [resolve_of_columnIndex? hcolumn] at h
      obtain ⟨-, -, h⟩ := bind_ok_iff.mp h
      obtain ⟨scale, -, h⟩ := bind_ok_iff.mp h
      rw [← Except.ok.inj h]

/-- A binding fails with an error about its channel. -/
theorem failsOn_resolve : FailsOn b.channel (b.resolve mark data rows extent config) := by
  cases hcolumn : data.columnIndex? b.field with
  | none =>
      rw [resolve_of_columnIndex?_none hcolumn]
      exact .error rfl
  | some column =>
      rw [resolve_of_columnIndex? hcolumn]
      refine .bind (Channel.failsOn_checkAccepts _ _) fun _ ↦ .bind ?_ fun _ ↦ .ok _
      unfold scaleOver
      split
      · exact .map (ScaleRequest.failsOn_synthesize _ _ _ _ _) some
      · exact .ok none

/-- Without a scale, a binding fails only if its field is missing or does not suit the channel. -/
theorem resolve_error_iff (hscale : b.channel.hasScale = false) {e : CompileError R} :
    b.resolve mark data rows extent config = .error e ↔
      (data.columnIndex? b.field = none ∧ e = .unknownField b.channel b.field) ∨
        ∃ column, data.columnIndex? b.field = some column ∧
          b.channel.accepts (b.typeOver data rows column) = false ∧
          e = .incompatibleType b.channel (b.typeOver data rows column) := by
  cases hcolumn : data.columnIndex? b.field with
  | none =>
      rw [resolve_of_columnIndex?_none hcolumn]
      constructor
      · intro h
        exact .inl ⟨rfl, (Except.error.inj h).symm⟩
      · rintro (⟨-, rfl⟩ | ⟨column, h, -⟩)
        · rfl
        · cases h
  | some column =>
      rw [resolve_of_columnIndex? hcolumn, bind_error_iff, Channel.checkAccepts_error_iff,
        scaleOver, hscale]
      constructor
      · rintro (h | ⟨-, -, h⟩)
        · exact .inr ⟨column, rfl, h⟩
        · cases h
      · rintro (⟨h, -⟩ | ⟨column', h, hfails⟩)
        · cases h
        · obtain rfl := Option.some.inj h
          exact .inl hfails

end FieldBinding

/-- A constant that cannot be read is named with its channel. -/
theorem Constant.parse_error {c : Channel} {v : Value R} {e : CompileError R}
    (h : Constant.parse c v = .error e) : e = .invalidConstant c v.text := by
  unfold parse at h
  split at h
  · cases h
  · exact (Except.error.inj h).symm

namespace Binding

variable {b : Binding R} {mark : MarkKind} {data : Dataset R} {rows : List (Row R)}
  {extent : Size R} {config : Config R}

/-- An encoding is on the channel of its binding. -/
theorem channel_of_resolve {e : Encoding R} (h : b.resolve mark data rows extent config = .ok e) :
    e.channel = b.channel := by
  cases b with
  | constant channel v =>
      obtain ⟨c, -, rfl⟩ := map_ok_iff.mp h
      rfl
  | field b =>
      obtain ⟨f, hf, rfl⟩ := map_ok_iff.mp h
      exact congrArg FieldBinding.channel (FieldBinding.binding_of_resolve hf)

/-- A binding fails with an error about its channel. -/
theorem failsOn_resolve : FailsOn b.channel (b.resolve mark data rows extent config) := by
  cases b with
  | constant channel v =>
      refine .map (fun e h ↦ ?_) _
      rw [Constant.parse_error h]
      rfl
  | field b => exact .map FieldBinding.failsOn_resolve _

end Binding

/-! ## Views -/

namespace ViewSpec

/-- A view cannot be resolved if a channel is bound twice, or with the error of the first binding
that cannot be resolved. -/
theorem resolve_error_iff {view : ViewSpec R} {data : Dataset R} {rows : List (Row R)}
    {extent : Size R} {config : Config R} {e : CompileError R} :
    view.resolve data rows extent config = .error e ↔ view.checkChannels = .error e ∨
      view.checkChannels = .ok () ∧ ∃ before b after, view.encodings = before ++ b :: after ∧
        (∀ b' ∈ before, ∃ e', b'.resolve view.mark.kind data rows extent config = .ok e') ∧
        b.resolve view.mark.kind data rows extent config = .error e := by
  rw [resolve, bind_error_iff]
  refine or_congr_right ?_
  constructor
  · rintro ⟨⟨⟩, hchannels, h⟩
    exact ⟨hchannels, mapM_error_iff.mp h⟩
  · rintro ⟨hchannels, h⟩
    exact ⟨(), hchannels, mapM_error_iff.mpr h⟩

end ViewSpec

end Charting
