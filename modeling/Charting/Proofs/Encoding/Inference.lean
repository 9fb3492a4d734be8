import Mathlib.Data.List.Basic
import Charting.Encoding.Inference
import Charting.Numeric.Double

/-!
# Inferred levels of measurement

Values are looked at one after another when their level of measurement is inferred, and no longer
than the answer is open.  It comes to the same as asking twice of all values that are there, once
whether they are numbers and once whether they are times (`DataType.infer_eq`).  So the level is known
from what values occur (`DataType.infer_levels`): neither their order matters, nor how often they
occur, nor what is missing.
-/

namespace Charting

variable {R : Type}

namespace Value

theorem isNull_eq_false_iff {v : Value R} : v.isNull = false ↔ v ≠ null := by
  cases v <;> simp [isNull]

/-- Values that speak for a temporal field. -/
inductive ShowsTime : Value R → Prop
  /-- A time. -/
  | time (ms : Int) : ShowsTime (time ms)
  /-- A text that reads as one. -/
  | text {s : String} {ms : Int} (reads : Timestamp.read? s = some ms) : ShowsTime (string s)

theorem isTemporal_iff {v : Value R} : v.isTemporal = true ↔ v.ShowsTime := by
  cases v with
  | null => exact ⟨fun h ↦ (Bool.false_ne_true h).elim, fun h ↦ nomatch h⟩
  | number x => exact ⟨fun h ↦ (Bool.false_ne_true h).elim, fun h ↦ nomatch h⟩
  | time ms => exact ⟨fun _ ↦ .time ms, fun _ ↦ rfl⟩
  | string s =>
      rw [isTemporal]
      constructor
      · intro h
        obtain ⟨ms, hread⟩ := Option.isSome_iff_exists.mp h
        exact .text hread
      · rintro (_ | ⟨hread⟩)
        rw [hread]
        rfl

variable [Scalar R]

/-- Values that speak for a quantitative field. -/
inductive ShowsNumber : Value R → Prop
  /-- A finite number. -/
  | number {x : R} (finite : Scalar.isFinite x = true) : ShowsNumber (number x)
  /-- A text that reads as one, without the blanks around it. -/
  | text {s : String} {x : R} (reads : Scalar.read? (trimBlanks s.toList) = some x)
      (finite : Scalar.isFinite x = true) : ShowsNumber (string s)

theorem isNumeric_iff {v : Value R} : v.isNumeric = true ↔ v.ShowsNumber := by
  cases v with
  | null => exact ⟨fun h ↦ (Bool.false_ne_true h).elim, fun h ↦ nomatch h⟩
  | number x => exact ⟨.number, fun | .number finite => finite⟩
  | time ms => exact ⟨fun h ↦ (Bool.false_ne_true h).elim, fun h ↦ nomatch h⟩
  | string s =>
      rw [isNumeric, toFinite?, toNumber?]
      constructor
      · intro h
        obtain ⟨x, hx⟩ := Option.isSome_iff_exists.mp h
        obtain ⟨hread, hfinite⟩ := Option.filter_eq_some_iff.mp hx
        exact .text hread hfinite
      · rintro (_ | ⟨hread, hfinite⟩)
        rw [hread, Option.filter_some, if_pos hfinite]
        rfl

end Value

namespace DataType

variable [Scalar R]

/-! ## One look at each value -/

/-- What is inferred after other values, as long as the answer is open. -/
theorem inferAfter_eq {seen numbers times : Bool} (hopen : (numbers || times) = true)
    (values : List (Value R)) :
    inferAfter seen numbers times values =
      if !seen && (values.filter (!·.isNull)).isEmpty then nominal
      else if numbers && (values.filter (!·.isNull)).all Value.isNumeric then quantitative
      else if times && (values.filter (!·.isNull)).all Value.isTemporal then temporal
      else nominal := by
  induction values generalizing seen numbers times with
  | nil =>
      rw [inferAfter]
      cases seen <;> cases numbers <;> simp_all
  | cons v rest ih =>
      rw [inferAfter]
      cases hnull : v.isNull with
      | true => simpa [hnull] using ih hopen
      | false =>
          rw [if_neg Bool.false_ne_true]
          dsimp only
          rw [← Bool.not_or]
          cases hleft : (numbers && v.isNumeric || times && v.isTemporal) with
          | false =>
              -- What closes the answer stays among the values.
              obtain ⟨hnumbers, htimes⟩ := Bool.or_eq_false_iff.mp hleft
              simp [hnull, ← Bool.and_assoc, hnumbers, htimes]
          | true =>
              rw [if_neg (by simp), ih hleft]
              simp [hnull, Bool.and_assoc]

/-- The level of the values that are there. -/
theorem infer_eq (values : List (Value R)) :
    infer values =
      if (values.filter (!·.isNull)).isEmpty then nominal
      else if (values.filter (!·.isNull)).all Value.isNumeric then quantitative
      else if (values.filter (!·.isNull)).all Value.isTemporal then temporal
      else nominal := by
  rw [infer, inferAfter_eq rfl]
  simp

/-! ## What the level depends on -/

variable {values : List (Value R)}

omit [Scalar R] in
theorem exists_present_iff :
    (∃ v ∈ values, v ≠ .null) ↔ (values.filter (!·.isNull)).isEmpty = false := by
  simp [← Value.isNull_eq_false_iff]

omit [Scalar R] in
theorem all_present_iff {p : Value R → Bool} :
    (∀ v ∈ values, v ≠ .null → p v = true) ↔ (values.filter (!·.isNull)).all p = true := by
  simp only [← Value.isNull_eq_false_iff, List.all_eq_true, List.mem_filter, Bool.not_eq_true',
    and_imp]

/-- Lists in which the same values occur, apart from missing ones, show the same level. -/
theorem infer_congr {values' : List (Value R)}
    (h : ∀ v : Value R, v ≠ .null → (v ∈ values ↔ v ∈ values')) : infer values = infer values' := by
  have hempty : (values.filter (!·.isNull)).isEmpty = (values'.filter (!·.isNull)).isEmpty := by
    rw [← Bool.not_inj_iff, Bool.eq_iff_iff, Bool.not_eq_true', Bool.not_eq_true',
      ← exists_present_iff, ← exists_present_iff]
    exact exists_congr fun v ↦ and_congr_left (h v)
  have hall (p : Value R → Bool) :
      (values.filter (!·.isNull)).all p = (values'.filter (!·.isNull)).all p := by
    rw [Bool.eq_iff_iff, ← all_present_iff, ← all_present_iff]
    exact forall_congr' fun v ↦ ⟨fun hp hv hnull ↦ hp ((h v hnull).mpr hv) hnull,
      fun hp hv hnull ↦ hp ((h v hnull).mp hv) hnull⟩
  rw [infer_eq, infer_eq, hempty, hall, hall]

/-- The level of measurement that values show: it depends on what values occur only, it is
quantitative if there are some and all are numbers, otherwise temporal if all are times, and nominal
in any other case. -/
theorem infer_levels (values : List (Value R)) :
    (∀ values' : List (Value R), (∀ v : Value R, v ≠ .null → (v ∈ values ↔ v ∈ values')) →
        infer values = infer values') ∧
      (infer values = quantitative ↔
        (∃ v ∈ values, v ≠ .null) ∧ ∀ v ∈ values, v ≠ .null → v.ShowsNumber) ∧
      (infer values = temporal ↔ infer values ≠ quantitative ∧
        (∃ v ∈ values, v ≠ .null) ∧ ∀ v ∈ values, v ≠ .null → v.ShowsTime) ∧
      (infer values = nominal ↔ infer values ≠ quantitative ∧ infer values ≠ temporal) := by
  refine ⟨fun values' h ↦ infer_congr h, ?_⟩
  simp only [exists_present_iff, ← Value.isNumeric_iff, ← Value.isTemporal_iff, all_present_iff]
  rw [infer_eq]
  -- Three tests are made, and the rest is what follows from their outcomes.
  generalize (values.filter (!·.isNull)).isEmpty = empty
  generalize (values.filter (!·.isNull)).all Value.isNumeric = numbers
  generalize (values.filter (!·.isNull)).all Value.isTemporal = times
  cases empty <;> cases numbers <;> cases times <;> simp

/-- Texts and numbers show the level of numbers, in any order, and so do they more than once or with
missing values among them. -/
theorem infer_levels_numbers :
    let few : List (Value Float) := [.number 2.5, .string " 7 "]
    let many : List (Value Float) := [.string " 7 ", .null, .number 2.5, .string " 7 "]
    (∀ v : Value Float, v ≠ .null → (v ∈ few ↔ v ∈ many)) ∧
      (∃ v ∈ few, v ≠ .null) ∧ infer many = .quantitative ∧ infer few = infer many := by
  intro few many
  have hsame : ∀ v : Value Float, v ≠ .null → (v ∈ few ↔ v ∈ many) := by
    intro v hv
    simp only [few, many, List.mem_cons, List.not_mem_nil, hv]
    tauto
  refine ⟨hsame, ⟨.number 2.5, by simp [few], by simp⟩, ?_, (infer_levels few).1 many hsame⟩
  decide +kernel

end DataType

end Charting
