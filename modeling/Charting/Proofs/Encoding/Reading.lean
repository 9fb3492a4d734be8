import Charting.Mark.Place
import Charting.Proofs.Data.Aggregation
import Charting.Proofs.Data.Order
import Charting.Proofs.Encoding.Inference
import Charting.Proofs.Encoding.Resolution
import Charting.Proofs.Scale.FiniteDomains

/-!
# Values that are read as inferred

The level of a field that is not declared is inferred from its values, and its scale reads these
values again, each in the way of its kind: as numbers, as times, or by their keys.  What has been
inferred is what can be read, and an infinite or undefined number makes a field nominal.  On an
axis, every row with a value is therefore found at a point or on a band
(`FieldBinding.resolve_places`), and it is only for want of any value that there is no scale.
-/

namespace Charting

variable {R : Type} [Scalar R]

/-! ## Inferred levels -/

namespace Value

theorem isSome_toFinite?_of_isNumeric {v : Value R} (h : v.isNumeric = true) :
    v.toFinite?.isSome = true := by
  cases v with
  | null => cases h
  | number x =>
      change Scalar.isFinite x = true at h
      simp [toFinite?, toNumber?, h]
  | string s => exact h
  | time ms => cases h

theorem isSome_toTime?_of_isTemporal {v : Value R} (h : v.isTemporal = true) :
    v.toTime?.isSome = true := by
  cases v with
  | null => cases h
  | number x => cases h
  | string s => exact h
  | time ms => rfl

end Value

namespace DataType

variable {values : List (Value R)}

/-- What is inferred: a quantitative field has numbers only, a temporal field has times only, and
any other field counts as nominal, as does one without values. -/
theorem infer_cases (values : List (Value R)) :
    infer values = .nominal ∨
      (infer values = .quantitative ∧ ∀ v ∈ values, v.isNull = false → v.isNumeric = true) ∨
      (infer values = .temporal ∧ ∀ v ∈ values, v.isNull = false → v.isTemporal = true) := by
  rw [infer_eq]
  have hpresent : ∀ v ∈ values, v.isNull = false → v ∈ values.filter (!·.isNull) :=
    fun v hv hnull ↦ List.mem_filter.mpr ⟨hv, by simp [hnull]⟩
  split
  · exact .inl rfl
  · split
    · rename_i hall
      exact .inr (.inl ⟨rfl, fun v hv hnull ↦ List.all_eq_true.mp hall v (hpresent v hv hnull)⟩)
    · split
      · rename_i hall
        exact .inr (.inr ⟨rfl, fun v hv hnull ↦ List.all_eq_true.mp hall v (hpresent v hv hnull)⟩)
      · exact .inl rfl

theorem infer_of_forall_isNull (h : ∀ v ∈ values, v.isNull = true) : infer values = .nominal := by
  have hnone : values.filter (!·.isNull) = [] :=
    List.filter_eq_nil_iff.mpr fun v hv ↦ by simp [h v hv]
  rw [infer_eq, hnone]
  rfl

end DataType

/-! ## Discrete domains -/

/-- The keys of a discrete domain are those of all values that are there. -/
theorem mem_map_key_discreteDomain {type : DataType} {values : List (Value R)}
    {sort : Option (SortOrder R)} {key : Value R} :
    key ∈ (discreteDomain type values sort).map Value.key ↔
      ∃ v ∈ values, v.isNull = false ∧ v.key = key := by
  have hperm : (discreteDomain type values sort).Perm
      (distinctBy Value.key (values.filter (!·.isNull))) := by
    unfold discreteDomain
    extract_lets distinct
    split
    · exact SortOrder.apply_perm _ _
    · split
      · exact .refl _
      · exact SortOrder.apply_perm _ _
  rw [(hperm.map Value.key).mem_iff, mem_map_distinctBy, List.mem_map]
  simp [and_assoc]

/-! ## Places on a scale -/

namespace Scale

variable {s : Scale R} {v : Value R}

/-- Where a value is found on a scale. -/
def place? (s : Scale R) (v : Value R) : Option (Place R) :=
  match s.band? v with
  | some (start, width) => some (.band start width)
  | none => ((s.mapNumber? v).filter Scalar.isFinite).map .point

/-- A value that is found on a scale is found at a point or on a band. -/
theorem point_or_band_of_place? {place : Place R} (h : s.place? v = some place) :
    (∃ p, place = .point p) ∨ ∃ start width, place = .band start width := by
  unfold place? at h
  split at h
  · exact .inr ⟨_, _, (Option.some.inj h).symm⟩
  · obtain ⟨p, -, rfl⟩ := Option.map_eq_some_iff.mp h
    exact .inl ⟨p, rfl⟩

/-- A value is found in a domain if it has the key of a value there. -/
theorem isSome_index?_iff {values : List (Value R)} (hdomain : s.domain = .discrete values) :
    (s.index? v).isSome = true ↔ v.key ∈ values.map Value.key := by
  rw [index?, values?, hdomain, Option.bind_some, List.findIdx?_isSome, List.any_eq_true,
    List.mem_map]
  simp only [decide_eq_true_eq]

/-- A value is on a band of a scale exactly if it is in the domain. -/
theorem isSome_place?_of_band (hkind : s.kind = .band) {values : List (Value R)}
    (hdomain : s.domain = .discrete values) {start stop : R}
    (hrange : s.range = .interval start stop) :
    (s.place? v).isSome = true ↔ v.key ∈ values.map Value.key := by
  rw [← isSome_index?_iff hdomain, place?, band?, bands?, mapNumber?, map?, hkind, hdomain, hrange]
  cases s.index? v with
  | none => simp
  | some i => simp

theorem band?_of_continuous {lo hi : R} (hdomain : s.domain = .continuous lo hi) :
    s.band? v = none := by
  have hbands : s.bands? = none := by
    unfold bands?
    split
    · rename_i hdiscrete _
      rw [hdomain] at hdiscrete
      cases hdiscrete
    · rfl
  rw [band?, hbands]
  rfl

end Scale

/-- A row is found on an axis where its value is found on the scale. -/
theorem Encodings.place?_of_on? {encodings : Encodings R} {c : Channel} {f : FieldEncoding R}
    (hf : encodings.on? c = some (.field f)) {s : Scale R} (hs : f.scale = some s) (row : Row R) :
    encodings.place? c row = (f.value? row).bind s.place? := by
  rw [place?, hf]
  simp only [hs]
  rfl

/-- If the values that are there are those with a place on the scale, then a row with a value is
found at a point or on a band, and any other row nowhere. -/
theorem Encodings.place?_of_isSome_iff {encodings : Encodings R} {c : Channel} {f : FieldEncoding R}
    (hf : encodings.on? c = some (.field f)) {s : Scale R} (hs : f.scale = some s) {row : Row R}
    (hplaces : ∀ v, f.value? row = some v → (s.place? v).isSome = !v.isNull) :
    ((∃ v, f.value? row = some v ∧ v.isNull = false) →
      (∃ p, encodings.place? c row = some (.point p)) ∨
        ∃ start width, encodings.place? c row = some (.band start width)) ∧
    ((¬ ∃ v, f.value? row = some v ∧ v.isNull = false) → encodings.place? c row = none) := by
  rw [place?_of_on? hf hs]
  cases hcell : f.value? row with
  | none => simp
  | some v =>
      have hplace := hplaces v hcell
      rw [Option.bind_some]
      constructor
      · rintro ⟨w, hw, hnull⟩
        obtain rfl := Option.some.inj hw
        rw [hnull] at hplace
        obtain ⟨place, hplace⟩ := Option.isSome_iff_exists.mp hplace
        rw [hplace]
        rcases Scale.point_or_band_of_place? hplace with ⟨p, rfl⟩ | ⟨start, width, rfl⟩
        · exact .inl ⟨p, rfl⟩
        · exact .inr ⟨start, width, rfl⟩
      · intro hnot
        have hnull : v.isNull = true := by
          by_contra h
          exact hnot ⟨v, rfl, Bool.eq_false_iff.mpr h⟩
        rw [hnull] at hplace
        exact Option.isNone_iff_eq_none.mp (Option.isSome_eq_false_iff.mp hplace)

/-! ## Readings -/

theorem isFinite_of_readOnScale? {type : DataType} {kind : ScaleKind} {v : Value R} {x : R}
    (h : readOnScale? type kind v = some x) : Scalar.isFinite x = true := by
  unfold readOnScale? at h
  split at h <;> exact (Option.filter_eq_some_iff.mp h).2

theorem readOnScale?_of_isNull {type : DataType} {kind : ScaleKind} {v : Value R}
    (hnull : v.isNull = true) : readOnScale? type kind v = none := by
  cases v with
  | null => unfold readOnScale?; split <;> rfl
  | _ => cases hnull

/-! ## Scales of axes -/

/-- A finite length, which is not negative. -/
structure IsLength (x : R) : Prop where
  /-- It is finite. -/
  isFinite : Scalar.isFinite x = true
  /-- It is not negative. -/
  zero_le : 0.0 ≤ x

variable [UnboundedScalar R] in
/-- A value is found on a linear scale with an interval as its domain exactly if it has a reading
there. -/
theorem Scale.isSome_place?_of_continuous {s : Scale R} (hkind : s.kind ≠ .sqrt) {lo hi : R}
    (hdomain : s.domain = .continuous lo hi) (hbounds : HasFiniteEnds (lo, hi)) {start stop : R}
    (hrange : s.range = .interval start stop) (hends : HasFiniteEnds (start, stop)) (v : Value R) :
    (s.place? v).isSome = (s.read? v).isSome := by
  have hline (x : R) : s.onLine x = x := if_neg hkind
  rw [place?, band?_of_continuous hdomain, mapNumber?, map?, hdomain]
  cases hread : s.read? v with
  | none => rfl
  | some x =>
      have hx : Scalar.isFinite x = true := isFinite_of_readOnScale? hread
      have himage := LinearScale.isFinite_map hbounds hends hx
      simp [mapBetween?, hrange, hline, hx, himage, ScaleOutput.number?]

namespace ScaleRequest

/-- A scale is made for an axis that has a length. -/
structure IsAxis (req : ScaleRequest R) : Prop where
  /-- The channel is a position. -/
  channel : req.channel = .x ∨ req.channel = .y
  /-- The plot has a width. -/
  width : IsLength req.extent.width
  /-- The plot has a height. -/
  height : IsLength req.extent.height

variable {req : ScaleRequest R} {values : List (Value R)} (config : Config R)
  (sort : Option (SortOrder R))

omit [Scalar R] in
/-- A continuous field has a continuous scale, and other fields have not. -/
theorem isContinuous_defaultKind (req : ScaleRequest R) :
    req.defaultKind.isContinuous = req.type.isContinuous := by
  have hdiscrete : req.discreteKind.isContinuous = false := by
    unfold discreteKind
    split <;> rfl
  cases htype : req.type with
  | nominal | ordinal =>
      rw [defaultKind, htype]
      exact hdiscrete
  | quantitative | temporal =>
      rw [defaultKind, htype]
      rfl

omit [Scalar R] in
/-- The kind of scale that suits a level of measurement can be used for it. -/
theorem scaleKind_auto (req : ScaleRequest R) : req.scaleKind .auto = .ok req.defaultKind := by
  have hsuits : ¬ (req.defaultKind.isContinuous && !req.type.isContinuous) = true := by
    rw [isContinuous_defaultKind, Bool.and_not_self]
    exact Bool.false_ne_true
  exact if_neg hsuits

theorem defaultKind_of_nominal (h : req.IsAxis) (htype : req.type = .nominal) :
    req.defaultKind = .band := by
  rw [defaultKind, htype, discreteKind]
  rcases h.channel with hc | hc <;> rw [hc] <;> rfl

omit [Scalar R] in
/-- Square roots have to be asked for. -/
theorem defaultKind_ne_sqrt (req : ScaleRequest R) : req.defaultKind ≠ .sqrt := by
  unfold defaultKind discreteKind
  split
  · split <;> exact nofun
  · split <;> exact nofun
  · exact nofun
  · exact nofun

/-- Without values there is no discrete scale. -/
theorem discreteScale_error {kind : ScaleKind} (hnull : ∀ v ∈ values, v.isNull = true) :
    req.discreteScale kind values .auto sort config =
      .error (.emptyDomain req.channel req.field) := by
  have hempty : (req.domainValues values .auto sort).isEmpty = true := by
    rw [List.isEmpty_iff, ← List.map_eq_nil_iff (f := Value.key), List.eq_nil_iff_forall_not_mem]
    intro key hkey
    obtain ⟨v, hv, hnot, -⟩ := mem_map_key_discreteDomain.mp hkey
    rw [hnull v hv] at hnot
    cases hnot
  rw [discreteScale]
  simp only [if_pos hempty]

/-- Without values there is no scale on an axis for the level that they show. -/
theorem synthesize_error_of_infer (h : req.IsAxis) (htype : req.type = DataType.infer values)
    (hnull : ∀ v ∈ values, v.isNull = true) :
    req.synthesize values .auto sort config = .error (.emptyDomain req.channel req.field) := by
  have hkind := defaultKind_of_nominal h (htype.trans (DataType.infer_of_forall_isNull hnull))
  exact bind_error_iff.mpr
    (.inr ⟨.band, hkind ▸ scaleKind_auto req, discreteScale_error config sort hnull⟩)

/-- The domain of values that are read has finite ends. -/
theorem exists_rawDomain (req : ScaleRequest R) {kind : ScaleKind}
    (hread : ∃ v ∈ values, (readOnScale? req.type kind v).isSome) :
    ∃ bounds, req.rawDomain kind none values = .ok bounds ∧ HasFiniteEnds bounds := by
  obtain ⟨v, hv, hread⟩ := hread
  obtain ⟨x, hx⟩ := Option.isSome_iff_exists.mp hread
  have hmem : x ∈ values.filterMap (readOnScale? req.type kind) :=
    List.mem_filterMap.mpr ⟨v, hv, hx⟩
  have hfinite : ∀ y ∈ values.filterMap (readOnScale? req.type kind),
      Scalar.isFinite y = true := by
    intro y hy
    obtain ⟨w, -, hw⟩ := List.mem_filterMap.mp hy
    exact isFinite_of_readOnScale? hw
  obtain ⟨y, ys, hys⟩ := List.exists_cons_of_ne_nil (List.ne_nil_of_mem hmem)
  rw [hys] at hfinite
  exact ⟨_, by rw [rawDomain, hys]; rfl, hasFiniteEnds_of_minMax? hfinite rfl⟩

variable [UnboundedScalar R]

theorem exists_numericRange (h : req.IsAxis) :
    ∃ ends, req.numericRange none config = .ok ends ∧ HasFiniteEnds ends := by
  obtain ⟨length, hlength, husual⟩ :
      ∃ length, IsLength length ∧ req.defaultRange? config = some (0.0, length) := by
    rcases h.channel with hc | hc
    · exact ⟨_, h.width, by rw [defaultRange?, hc]⟩
    · exact ⟨_, h.height, by rw [defaultRange?, hc]⟩
  have hzero : Scalar.isFinite (0.0 : R) = true := UnboundedScalar.isFinite_ofScientific ..
  have hpositive : ¬ length < 0.0 := fun hlt ↦
    (LawfulScalar.lt_iff_le_not_ge.mp hlt).2 hlength.zero_le
  refine ⟨if req.channel = .y then (length, 0.0) else (0.0, length), ?_, ?_⟩
  · rw [numericRange, husual]
    simp [rangeEnds?, hpositive, hzero, hlength.isFinite]
  · exact .ite ⟨hlength.isFinite, hzero⟩ ⟨hzero, hlength.isFinite⟩

theorem exists_continuousRange (h : req.IsAxis) :
    ∃ start stop, req.continuousRange none config = .ok (.interval start stop) ∧
      HasFiniteEnds (start, stop) := by
  obtain ⟨⟨start, stop⟩, hends, hfinite⟩ := exists_numericRange config h
  refine ⟨start, stop, ?_, hfinite⟩
  unfold continuousRange
  rcases h.channel with hc | hc <;> rw [hc, hends] <;> rfl

theorem exists_discreteRange (h : req.IsAxis) (n : Nat) :
    ∃ start stop, req.discreteRange none n config = .ok (.interval start stop) := by
  obtain ⟨⟨start, stop⟩, hends, -⟩ := exists_numericRange config h
  refine ⟨start, stop, ?_⟩
  unfold discreteRange
  rcases h.channel with hc | hc <;> rw [hc, hends] <;> rfl

/-- A continuous scale of an axis is made if there is a value to read. -/
theorem exists_continuousScale (h : req.IsAxis) {kind : ScaleKind}
    (hread : ∃ v ∈ values, (readOnScale? req.type kind v).isSome) :
    ∃ s, req.continuousScale kind values .auto config = .ok s ∧ s.type = req.type ∧
      s.kind = kind ∧ (∃ lo hi, s.domain = .continuous lo hi ∧ HasFiniteEnds (lo, hi)) ∧
      ∃ start stop, s.range = .interval start stop ∧ HasFiniteEnds (start, stop) := by
  obtain ⟨start, stop, hrange, hends⟩ := exists_continuousRange config h
  obtain ⟨bounds, hbounds, hfinite⟩ := req.exists_rawDomain hread
  refine ⟨_, bind_ok_iff.mpr ⟨none, rfl, bind_ok_iff.mpr ⟨bounds, hbounds,
    bind_ok_iff.mpr ⟨_, hrange, rfl⟩⟩⟩, rfl, rfl, ⟨_, _, rfl, ?_⟩, _, _, rfl, hends⟩
  -- neither zero nor round values make the ends infinite
  have hzero : HasFiniteEnds
      (if req.includesZero kind .auto then withZero bounds else bounds) :=
    (hasFiniteEnds_withZero hfinite).ite hfinite
  exact (hasFiniteEnds_niceBounds kind config.tickCount hzero).ite hzero

/-- A discrete scale of an axis is made if there is a value. -/
theorem exists_discreteScale (h : req.IsAxis) (kind : ScaleKind)
    (hvalue : ∃ v ∈ values, v.isNull = false) :
    ∃ s, req.discreteScale kind values .auto sort config = .ok s ∧ s.kind = kind ∧
      s.domain = .discrete (discreteDomain req.type values sort) ∧
      ∃ start stop, s.range = .interval start stop := by
  obtain ⟨v, hv, hnull⟩ := hvalue
  have hmem : v.key ∈ (discreteDomain req.type values sort).map Value.key :=
    mem_map_key_discreteDomain.mpr ⟨v, hv, hnull, rfl⟩
  have hne : ¬ (req.domainValues values .auto sort).isEmpty := by
    rw [List.isEmpty_iff]
    exact List.map_eq_nil_iff.not.mp (List.ne_nil_of_mem hmem)
  obtain ⟨start, stop, hrange⟩ :=
    exists_discreteRange config h (req.domainValues values .auto sort).length
  rw [discreteScale]
  simp only [if_neg hne]
  exact ⟨_, bind_ok_iff.mpr ⟨_, hrange, rfl⟩, rfl, rfl, _, _, rfl⟩

/-- If all values can be read on the usual scale of a continuous field, then this scale is made and
all values are found there. -/
theorem exists_synthesize_of_read (h : req.IsAxis) (hkind : req.defaultKind.isContinuous = true)
    (hread : ∀ v ∈ values, v.isNull = false →
      (readOnScale? req.type req.defaultKind v).isSome = true)
    (hvalue : ∃ v ∈ values, v.isNull = false) :
    ∃ s, req.synthesize values .auto sort config = .ok s ∧
      ∀ v ∈ values, (s.place? v).isSome = !v.isNull := by
  obtain ⟨v, hv, hnull⟩ := hvalue
  obtain ⟨s, hs, htype, hskind, ⟨lo, hi, hdomain, hbounds⟩, start, stop, hrange, hends⟩ :=
    exists_continuousScale config h ⟨v, hv, hread v hv hnull⟩
  refine ⟨s, bind_ok_iff.mpr ⟨_, scaleKind_auto req, ?_⟩, fun w hw ↦ ?_⟩
  · rw [if_pos hkind]
    exact hs
  · have hline : s.kind ≠ .sqrt := hskind ▸ defaultKind_ne_sqrt req
    rw [Scale.isSome_place?_of_continuous hline hdomain hbounds hrange hends, Scale.read?, htype,
      hskind]
    cases hnull : w.isNull with
    | true => rw [readOnScale?_of_isNull hnull]; rfl
    | false => rw [hread w hw hnull]; rfl

/-- If the usual scale of a field has bands, then this scale is made and all values are found
there. -/
theorem exists_synthesize_of_band (h : req.IsAxis) (hkind : req.defaultKind = .band)
    (hvalue : ∃ v ∈ values, v.isNull = false) :
    ∃ s, req.synthesize values .auto sort config = .ok s ∧
      ∀ v ∈ values, (s.place? v).isSome = !v.isNull := by
  obtain ⟨s, hs, hskind, hdomain, start, stop, hrange⟩ :=
    exists_discreteScale config sort h .band hvalue
  refine ⟨s, bind_ok_iff.mpr ⟨.band, hkind ▸ scaleKind_auto req, hs⟩, fun w hw ↦ ?_⟩
  rw [Bool.eq_iff_iff, Scale.isSome_place?_of_band hskind hdomain hrange,
    mem_map_key_discreteDomain, Bool.not_eq_true']
  constructor
  · -- A missing value has a key of its own, which no value of the domain has.
    rintro ⟨v, -, hnull, hkey⟩
    rw [← Value.isNull_eq_of_key_eq hkey, hnull]
  · exact fun hnull ↦ ⟨w, hw, hnull, rfl⟩

/-- A scale that is made for the level that values show has a place for each of them. -/
theorem exists_synthesize_of_infer (h : req.IsAxis) (htype : req.type = DataType.infer values)
    (hvalue : ∃ v ∈ values, v.isNull = false) :
    ∃ s, req.synthesize values .auto sort config = .ok s ∧
      ∀ v ∈ values, (s.place? v).isSome = !v.isNull := by
  rcases DataType.infer_cases values with hinfer | ⟨hinfer, hall⟩ | ⟨hinfer, hall⟩
  · have hkind := defaultKind_of_nominal h (htype.trans hinfer)
    exact exists_synthesize_of_band config sort h hkind hvalue
  · -- What tells that a text is a number is its reading as a number.
    rw [hinfer] at htype
    have hkind : req.defaultKind = .linear := by rw [defaultKind, htype]
    refine exists_synthesize_of_read config sort h (by rw [hkind]; rfl) (fun v hv hnull ↦ ?_) hvalue
    rw [htype, hkind]
    exact Value.isSome_toFinite?_of_isNumeric (hall v hv hnull)
  · -- Numbers would be read as times too, but they do not make a field temporal.
    rw [hinfer] at htype
    have hkind : req.defaultKind = .time := by rw [defaultKind, htype]
    refine exists_synthesize_of_read config sort h (by rw [hkind]; rfl) (fun v hv hnull ↦ ?_) hvalue
    obtain ⟨ms, hms⟩ := Option.isSome_iff_exists.mp
      (Value.isSome_toTime?_of_isTemporal (hall v hv hnull))
    have hfinite : Scalar.isFinite (Scalar.ofInt ms : R) = true := UnboundedScalar.isFinite_ofInt ms
    simp [htype, hkind, readOnScale?, hms, hfinite]

end ScaleRequest

/-! ## Bindings -/

namespace Dataset

/-- Whether a row has a value of a field. -/
def HasValue (data : Dataset R) (name : String) (row : Row R) : Prop :=
  ∃ v, data.valueIn? name row = some v ∧ v.isNull = false

omit [Scalar R]

variable {data : Dataset R} {name : String} {column : Nat}

theorem hasValue_iff (hcolumn : data.columnIndex? name = some column) {row : Row R} :
    data.HasValue name row ↔ ∃ v, row.values[column]? = some v ∧ v.isNull = false := by
  rw [HasValue, valueIn?, hcolumn, Option.bind_some]

/-- Some row has a value of a field if there is a value among those of the rows. -/
theorem exists_hasValue_iff (hcolumn : data.columnIndex? name = some column)
    {rows : List (Row R)} : (∃ row ∈ rows, data.HasValue name row) ↔
      ∃ v ∈ rows.filterMap (·.values[column]?), v.isNull = false := by
  simp only [hasValue_iff hcolumn, List.mem_filterMap]
  constructor
  · rintro ⟨row, hrow, v, hv, hnull⟩
    exact ⟨v, ⟨row, hrow, hv⟩, hnull⟩
  · rintro ⟨v, ⟨row, hrow, hv⟩, hnull⟩
    exact ⟨row, hrow, v, hv, hnull⟩

theorem exists_columnIndex?_of_field? {field : Field} (h : data.field? name = some field) :
    ∃ column, data.columnIndex? name = some column := by
  rw [← Option.isSome_iff_exists, columnIndex?, List.findIdx?_isSome, List.any_eq_true]
  rw [field?] at h
  have hname := List.find?_some h
  exact ⟨field, List.mem_of_find?_eq_some h, hname⟩

end Dataset

namespace FieldBinding

variable {b : FieldBinding R} {mark : MarkKind} {data : Dataset R} {rows : List (Row R)}
  {extent : Size R} {config : Config R}

/-- A binding of a field to an axis is resolved by making its scale. -/
theorem resolve_of_position (hchannel : b.channel = .x ∨ b.channel = .y) {column : Nat}
    (hcolumn : data.columnIndex? b.field = some column) :
    b.resolve mark data rows extent config =
      ((b.requestOver mark data rows column extent).synthesize
        (rows.filterMap (·.values[column]?)) b.scale b.sort config).map fun s ↦
          ⟨b, column, b.typeOver data rows column, (b.fieldIn data).kind, some s⟩ := by
  have haccepts : b.channel.accepts (b.typeOver data rows column) = true := by
    rcases hchannel with h | h <;> rw [h] <;> rfl
  have hhasScale : b.channel.hasScale = true := by
    rcases hchannel with h | h <;> rw [h] <;> rfl
  rw [resolve_of_columnIndex? hcolumn, Channel.checkAccepts_ok_iff.mpr haccepts, scaleOver,
    if_pos hhasScale]
  cases (b.requestOver mark data rows column extent).synthesize _ b.scale b.sort config <;> rfl

variable [UnboundedScalar R] in
/-- A field of which nothing is declared is shown on an axis if it has a value in some row, and then
every row with a value has a point or a band there and no other row has a place.  If no row has a
value, then the domain is empty. -/
theorem resolve_places {field : Field} (hchannel : b.channel = .x ∨ b.channel = .y)
    (htype : b.type = none) (hscale : b.scale = .auto) (hfield : data.field? b.field = some field)
    (hdeclared : field.declared = none) (hwidth : IsLength extent.width)
    (hheight : IsLength extent.height) :
    ((∃ row ∈ rows, data.HasValue b.field row) →
      ∃ f, b.resolve mark data rows extent config = .ok f ∧
        ∀ encodings : Encodings R, encodings.on? b.channel = some (.field f) → ∀ row ∈ rows,
          (data.HasValue b.field row → (∃ p, encodings.place? b.channel row = some (.point p)) ∨
            ∃ start width, encodings.place? b.channel row = some (.band start width)) ∧
          (¬ data.HasValue b.field row → encodings.place? b.channel row = none)) ∧
    ((∀ row ∈ rows, ¬ data.HasValue b.field row) →
      b.resolve mark data rows extent config = .error (.emptyDomain b.channel b.field)) := by
  obtain ⟨column, hcolumn⟩ := Dataset.exists_columnIndex?_of_field? hfield
  have haxis : (b.requestOver mark data rows column extent).IsAxis := ⟨hchannel, hwidth, hheight⟩
  have hinferred : (b.requestOver mark data rows column extent).type =
      DataType.infer (rows.filterMap (·.values[column]?)) :=
    typeOver_of_not_declared htype (by rw [fieldIn, hfield]; exact hdeclared) rows column
  rw [resolve_of_position hchannel hcolumn, hscale, Dataset.exists_hasValue_iff hcolumn]
  refine ⟨fun hvalue ↦ ?_, fun hnone ↦ ?_⟩
  · obtain ⟨s, hs, hplaces⟩ :=
      ScaleRequest.exists_synthesize_of_infer config b.sort haxis hinferred hvalue
    refine ⟨_, map_ok_iff.mpr ⟨s, hs, rfl⟩, fun encodings hf row hrow ↦ ?_⟩
    rw [Dataset.hasValue_iff hcolumn]
    refine Encodings.place?_of_isSome_iff hf rfl fun v hv ↦ ?_
    exact hplaces v (List.mem_filterMap.mpr ⟨row, hrow, hv⟩)
  · have hnull : ∀ v ∈ rows.filterMap (·.values[column]?), v.isNull = true := by
      intro v hv
      by_contra hnot
      obtain ⟨row, hrow, hvalue⟩ :=
        (Dataset.exists_hasValue_iff hcolumn).mpr ⟨v, hv, Bool.eq_false_iff.mpr hnot⟩
      exact hnone row hrow hvalue
    rw [ScaleRequest.synthesize_error_of_infer config b.sort haxis hinferred hnull]
    rfl

omit [Scalar R] in
theorem on?_of_channel_eq {f : FieldEncoding R} {c : Channel} (h : f.channel = c) :
    Encodings.on? [.field f] c = some (.field f) := by
  simp [Encodings.on?, Encoding.channel, h]

/-! ### Sightings of a bird

It has been seen twice, where one date is a text and the other one a time, and it has never been
heard.  It has been weighed twice, the second time in vain. -/

/-- When a bird was seen and heard, and what it weighed. -/
def sightings : Dataset Extended :=
  .ofRows [.untyped "seen", .untyped "heard", .untyped "weight"]
    [[.string "2024-01-01", .null, .number (.finite 18)], [.null, .null, .number .undefined],
      [.time 0, .null, .null]]

/-- Both days on which the bird was seen are on the axis of these days, and both weights are on that
of the weights, although one is no number.  There is no axis of the days on which it was heard. -/
theorem resolve_places_sightings :
    (∃ f, (plain .x "seen").resolve .tick sightings sightings.rows ⟨.finite 200, .finite 0⟩
        .standard = .ok f ∧
      (∀ row ∈ [sightings.rows[0], sightings.rows[2]],
        (∃ p, Encodings.place? [.field f] .x row = some (.point p)) ∨
          ∃ start width, Encodings.place? [.field f] .x row = some (.band start width)) ∧
      Encodings.place? [.field f] .x sightings.rows[1] = none) ∧
    (∃ f, (plain .x "weight").resolve .tick sightings sightings.rows ⟨.finite 200, .finite 0⟩
        .standard = .ok f ∧
      (∀ row ∈ [sightings.rows[0], sightings.rows[1]],
        (∃ p, Encodings.place? [.field f] .x row = some (.point p)) ∨
          ∃ start width, Encodings.place? [.field f] .x row = some (.band start width)) ∧
      Encodings.place? [.field f] .x sightings.rows[2] = none) ∧
    (plain .y "heard").resolve .tick sightings sightings.rows ⟨.finite 200, .finite 0⟩ .standard =
      .error (.emptyDomain .y "heard") := by
  have hwidth : IsLength (Extended.finite 200) := ⟨rfl, by decide +kernel⟩
  have hheight : IsLength (Extended.finite 0) := ⟨rfl, by decide +kernel⟩
  have hmissing {name : String} {row : Row Extended}
      (hnull : sightings.valueIn? name row = some .null) : ¬ sightings.HasValue name row := by
    rintro ⟨v, hv, hnot⟩
    obtain rfl := Option.some.inj (hnull.symm.trans hv)
    cases hnot
  refine ⟨?_, ?_, ?_⟩
  · obtain ⟨hplaces, -⟩ := @resolve_places _ _ (plain .x "seen") .tick sightings sightings.rows
      ⟨.finite 200, .finite 0⟩ .standard _ (.untyped "seen") (.inl rfl) rfl rfl rfl rfl hwidth
      hheight
    have hfirst : sightings.HasValue "seen" sightings.rows[0] := ⟨.string "2024-01-01", rfl, rfl⟩
    have hlast : sightings.HasValue "seen" sightings.rows[2] := ⟨.time 0, rfl, rfl⟩
    obtain ⟨f, hf, hplaces⟩ := hplaces ⟨_, List.getElem_mem _, hfirst⟩
    have hon := on?_of_channel_eq (congrArg FieldBinding.channel (binding_of_resolve hf))
    refine ⟨f, hf, ?_, (hplaces _ hon _ (List.getElem_mem _)).2 (hmissing rfl)⟩
    rw [List.forall_mem_cons, List.forall_mem_singleton]
    exact ⟨(hplaces _ hon _ (List.getElem_mem _)).1 hfirst,
      (hplaces _ hon _ (List.getElem_mem _)).1 hlast⟩
  · obtain ⟨hplaces, -⟩ := @resolve_places _ _ (plain .x "weight") .tick sightings sightings.rows
      ⟨.finite 200, .finite 0⟩ .standard _ (.untyped "weight") (.inl rfl) rfl rfl rfl rfl hwidth
      hheight
    have hfirst : sightings.HasValue "weight" sightings.rows[0] := ⟨_, rfl, rfl⟩
    have hundefined : sightings.HasValue "weight" sightings.rows[1] := ⟨_, rfl, rfl⟩
    obtain ⟨f, hf, hplaces⟩ := hplaces ⟨_, List.getElem_mem _, hfirst⟩
    have hon := on?_of_channel_eq (congrArg FieldBinding.channel (binding_of_resolve hf))
    refine ⟨f, hf, ?_, (hplaces _ hon _ (List.getElem_mem _)).2 (hmissing rfl)⟩
    rw [List.forall_mem_cons, List.forall_mem_singleton]
    exact ⟨(hplaces _ hon _ (List.getElem_mem _)).1 hfirst,
      (hplaces _ hon _ (List.getElem_mem _)).1 hundefined⟩
  · obtain ⟨-, hempty⟩ := @resolve_places _ _ (plain .y "heard") .tick sightings sightings.rows
      ⟨.finite 200, .finite 0⟩ .standard _ (.untyped "heard") (.inr rfl) rfl rfl rfl rfl hwidth
      hheight
    have hheard : ∀ row ∈ sightings.rows, sightings.valueIn? "heard" row = some .null := by decide
    exact hempty fun row hrow ↦ hmissing (hheard row hrow)

end FieldBinding

end Charting
