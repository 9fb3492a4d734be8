import Charting.Proofs.Data.Arrangement
import Charting.Proofs.Encoding.Reading
import Charting.Proofs.Scale.Synthesis

/-!
# Discrete domains

The domain of a discrete scale holds the distinct values of a field in order (`IsArranged`), unless
it is given.  As no two of them have the same key, the position of a value in the domain and the key
of the value determine each other (`Scale.index?_eq_some_iff`).
-/

namespace Charting

variable {R : Type} [Scalar R]

/-- How the values of a domain are sorted: if no sort is given, only nominal values stay in the
order in which they appear. -/
def DataType.domainSort (type : DataType) (sort : Option (SortOrder R)) : Option (SortOrder R) :=
  sort.or (if type = .nominal then none else some .ascending)

/-- The values of a discrete domain are the distinct values that are there, in order. -/
theorem isArranged_discreteDomain [Std.TransCmp (Scalar.totalOrder : R → R → Ordering)]
    [Std.LawfulEqCmp (Scalar.totalOrder : R → R → Ordering)] (type : DataType)
    (values : List (Value R)) (sort : Option (SortOrder R)) :
    IsArranged (type.domainSort sort) (values.filter (!·.isNull))
      (discreteDomain type values sort) := by
  cases sort with
  | some sort => exact sort.isArranged_apply _
  | none =>
      rw [DataType.domainSort, Option.none_or, discreteDomain]
      split
      case isTrue => exact isArranged_distinctBy _
      case isFalse => exact SortOrder.ascending.isArranged_apply _

/-! ## Positions in a domain -/

/-- Where no two values have the same key, a value is found where its key is. -/
theorem Scale.index?_eq_some_iff {s : Scale R} {domain : List (Value R)}
    (hdomain : s.domain = .discrete domain) (distinct : (domain.map Value.key).Nodup) {v : Value R}
    {i : Nat} : s.index? v = some i ↔ domain[i]?.map Value.key = some v.key := by
  rw [index?, values?, hdomain, Option.bind_some, List.findIdx?_eq_some_iff_getElem,
    ← List.getElem?_map, List.getElem?_eq_some_iff]
  simp only [decide_eq_true_eq, List.length_map, List.getElem_map]
  constructor
  · rintro ⟨hi, hkey, -⟩
    exact ⟨hi, hkey⟩
  · rintro ⟨hi, hkey⟩
    refine ⟨hi, hkey, fun j hj heq ↦ ?_⟩
    -- A value before it with the same key would be at the same position.
    have hi' : i < (domain.map Value.key).length := by rwa [List.length_map]
    have hj' : j < (domain.map Value.key).length := hj.trans hi'
    have hkeys : (domain.map Value.key)[j] = (domain.map Value.key)[i] := by
      rw [List.getElem_map, List.getElem_map, heq, hkey]
    exact hj.ne (distinct.getElem_inj_iff.mp hkeys)

namespace ScaleRequest

variable {req : ScaleRequest R} {kind : ScaleKind} {values : List (Value R)} {spec : ScaleSpec R}
  {sort : Option (SortOrder R)} {config : Config R} {scale : Scale R}

theorem discreteScale_ok (h : req.discreteScale kind values spec sort config = .ok scale) :
    scale.domain = .discrete (req.domainValues values spec sort) := by
  unfold discreteScale at h
  dsimp only at h
  split at h
  case isTrue => cases h
  case isFalse =>
    obtain ⟨range, -, h⟩ := bind_ok_iff.mp h
    obtain rfl := Except.ok.inj h
    rfl

/-- A discrete scale whose domain is not given has the values of the field in its domain. -/
theorem domain_of_synthesize (h : req.synthesize values spec sort config = .ok scale)
    (hdiscrete : scale.isContinuous = false) (hspec : spec.domain = none) :
    scale.domain = .discrete (discreteDomain req.type values sort) := by
  obtain ⟨-, -, ⟨-, ⟨lo, hi, hdomain⟩, -⟩ | ⟨-, hdomain, -⟩⟩ := synthesize_cases h
  · rw [Scale.isContinuous, hdomain] at hdiscrete
    cases hdiscrete
  · rw [hdomain, domainValues, hspec]

end ScaleRequest

/-- The domain of a discrete scale holds the distinct values in order, and its scale finds just the
values that were there, each at the one place that has its key.  Values that are found at the same
place have the same key. -/
theorem discreteDomain_index? [Std.TransCmp (Scalar.totalOrder : R → R → Ordering)]
    [Std.LawfulEqCmp (Scalar.totalOrder : R → R → Ordering)] (type : DataType)
    (values : List (Value R)) (sort : Option (SortOrder R)) :
    IsArranged (type.domainSort sort) (values.filter (!·.isNull))
      (discreteDomain type values sort) ∧
    ∀ (req : ScaleRequest R) (spec : ScaleSpec R) (config : Config R) (scale : Scale R),
      req.type = type → spec.domain = none → req.synthesize values spec sort config = .ok scale →
      scale.isContinuous = false →
        scale.domain = .discrete (discreteDomain type values sort) ∧
        (∀ v, (∃ i, scale.index? v = some i) ↔
          v.isNull = false ∧ ∃ w ∈ values, w.key = v.key) ∧
        (∀ v i, scale.index? v = some i →
          ∀ j, (discreteDomain type values sort)[j]?.map Value.key = some v.key ↔ j = i) ∧
        ∀ v w i, scale.index? v = some i → scale.index? w = some i → v.key = w.key := by
  have harranged := isArranged_discreteDomain type values sort
  refine ⟨harranged, fun req spec config scale htype hspec h hdiscrete ↦ ?_⟩
  subst htype
  have hdomain := ScaleRequest.domain_of_synthesize h hdiscrete hspec
  have hindex : ∀ {v i}, scale.index? v = some i ↔
      (discreteDomain req.type values sort)[i]?.map Value.key = some v.key :=
    Scale.index?_eq_some_iff hdomain harranged.nodup
  refine ⟨hdomain, fun v ↦ ?_, fun v i hi j ↦ ?_, fun v w i hv hw ↦ ?_⟩
  · rw [← Option.isSome_iff_exists, Scale.isSome_index?_iff hdomain, mem_map_key_discreteDomain]
    constructor
    · rintro ⟨w, hw, hnull, hkey⟩
      exact ⟨(Value.isNull_eq_of_key_eq hkey).symm.trans hnull, w, hw, hkey⟩
    · rintro ⟨hnull, w, hw, hkey⟩
      exact ⟨w, hw, (Value.isNull_eq_of_key_eq hkey).trans hnull, hkey⟩
  · rw [← hindex, hi, Option.some_inj, eq_comm]
  · exact Option.some.inj ((hindex.mp hv).symm.trans (hindex.mp hw))

/-- A horizontal axis of grades. -/
def gradeAxis : ScaleRequest ℚ where
  channel := .x
  field := "grade"
  type := .ordinal
  quantitativeKind := none
  mark := .bar
  extent := ⟨200, 100⟩

/-- Grades, one of them missing and some of them numbers. -/
def grades : List (Value ℚ) :=
  [.string "B", .null, .number 2, .string "A", .string "B", .number 1]

/-- An order of grades, one of which is listed twice, and one of which does not occur. -/
def gradeOrder : SortOrder ℚ :=
  .explicit [.string "A", .string "C", .string "B", .string "A"]

theorem discreteDomain_index?_grades :
    discreteDomain .ordinal grades (some gradeOrder) =
      [.string "A", .string "B", .number 2, .number 1] ∧
    IsArranged (some gradeOrder) (grades.filter (!·.isNull))
      [.string "A", .string "B", .number 2, .number 1] ∧
    ∃ scale, gradeAxis.synthesize grades .auto (some gradeOrder) .standard = .ok scale ∧
      (∃ i, scale.index? (.number 1) = some i) ∧ ¬ (∃ i, scale.index? (.string "C") = some i) ∧
      ∀ v w i, scale.index? v = some i → scale.index? w = some i → v.key = w.key := by
  have hdomain : discreteDomain .ordinal grades (some gradeOrder) =
      [.string "A", .string "B", .number 2, .number 1] := by
    decide +kernel
  have hcomputed : (gradeAxis.synthesize grades .auto (some gradeOrder) .standard).toOption.map
      Scale.isContinuous = some false := by
    decide +kernel
  obtain ⟨scale, h, hdiscrete⟩ := exists_ok_of_map_eq_some hcomputed
  obtain ⟨harranged, hscales⟩ := discreteDomain_index? .ordinal grades (some gradeOrder)
  obtain ⟨-, hfound, -, hinj⟩ := hscales gradeAxis .auto .standard scale rfl rfl h hdiscrete
  refine ⟨hdomain, hdomain ▸ harranged, scale, h, (hfound _).mpr ?_, (hfound _).not.mpr ?_, hinj⟩
  · exact ⟨rfl, .number 1, by simp [grades], rfl⟩
  · rintro ⟨-, w, hw, hkey⟩
    have hnone : ∀ w ∈ grades, w.key ≠ (Value.string "C" : Value ℚ).key := by decide +kernel
    exact hnone w hw hkey

end Charting
