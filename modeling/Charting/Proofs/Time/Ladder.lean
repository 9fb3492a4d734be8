import Mathlib.Data.List.Find
import Charting.Proofs.Time.TickTimes

/-!
# The ladder of steps

The steps that can be chosen form a ladder on which every rung is at least twice as long as the one
below.  A target is answered by the first rung whose limit it does not exceed
(`TimeStep.find?_ladder`), so that longer targets have longer steps.
-/

namespace Charting

namespace TimeStep

/-- The longest target that a step is chosen for: years are counted after the fraction of a year has
been cut off. -/
def limit : TimeStep → Int
  | millis ms => ms
  | week => weekLength
  | months n => if n < 12 then n * 30 * day else (n / 12 + 1) * (365 * day) - 1

/-- The steps below a year. -/
def belowYear : List TimeStep := short.dropLast

/-- All steps, from the shortest to the longest. -/
def ladder : List TimeStep := belowYear ++ roundYears.map fun y ↦ months (12 * y)

/-- Every rung of the ladder is at least twice as long as the one below. -/
theorem pairwise_ladder :
    ladder.Pairwise fun s u ↦ s.limit < u.limit ∧ 2 * s.length ≤ u.length := by
  decide +kernel

theorem limit_months_year {y : Int} (hy : 0 < y) :
    (months (12 * y)).limit = (y + 1) * (365 * day) - 1 := by
  rw [limit, if_neg (by omega), Int.mul_ediv_cancel_left y (by decide)]

/-- A target is within the limit of a step of years if its whole years are. -/
theorem le_limit_months_year_iff {t y : Int} (hy : 0 < y) :
    t ≤ (months (12 * y)).limit ↔ t / (365 * day) ≤ y := by
  have hyear : (0 : Int) < 365 * day := by decide
  rw [limit_months_year hy, ← Int.lt_add_one_iff (b := y), Int.ediv_lt_iff_lt_mul hyear]
  omega

/-- What is found first in a sorted list comes before anything else that could be found. -/
theorem eq_or_before_of_find?_eq_some {α : Type} {r : α → α → Prop} {xs : List α}
    (hsorted : xs.Pairwise r) {p : α → Bool} {a b : α} (hfind : xs.find? p = some a) (hb : b ∈ xs)
    (hp : p b) : b = a ∨ r a b := by
  obtain ⟨-, before, after, rfl, hbefore⟩ := List.find?_eq_some_iff_append.mp hfind
  rcases List.mem_append.mp hb with hb | hb
  · simpa [hp] using hbefore b hb
  · exact (List.mem_cons.mp hb).imp_right
      ((List.pairwise_cons.mp (List.pairwise_append.mp hsorted).2.1).1 b)

theorem pairwise_roundYears : roundYears.Pairwise (· < ·) := by
  decide +kernel

/-- A step is the first one on the ladder whose limit is not exceeded.  Targets that are not longer
than this have steps of fewer months than 32 bits can count. -/
theorem find?_ladder {t : Int} (ht : t ≤ 2 ^ 61) :
    ladder.find? (t ≤ ·.limit) = some (atLeast t) := by
  have hshort : short = belowYear ++ [months 12] := by decide
  have hlimit : ∀ s ∈ belowYear, s.limit = s.length := by decide
  have hbelow : belowYear.find? (t ≤ ·.limit) = belowYear.find? (t ≤ ·.length) :=
    List.find?_congr fun s hs ↦ by rw [hlimit s hs]
  rw [ladder, atLeast, hshort, List.find?_append, List.find?_append, hbelow]
  cases hfind : belowYear.find? (t ≤ ·.length) with
  | some s => rfl
  | none =>
      have hpos : 0 < t := by
        have hweek := List.find?_eq_none.mp hfind week (by decide)
        rw [decide_eq_true_eq, not_le] at hweek
        exact lt_trans (by decide) hweek
      -- whole years are compared
      have hyears : (roundYears.map fun y ↦ months (12 * y)).find? (t ≤ ·.limit) =
          (roundYears.find? (t.tdiv (365 * day) ≤ ·)).map fun y ↦ months (12 * y) := by
        rw [List.find?_map]
        congr 1
        refine List.find?_congr fun y hy ↦ ?_
        rw [Function.comp_apply, Int.tdiv_eq_ediv_of_nonneg hpos.le]
        exact decide_eq_decide.mpr (le_limit_months_year_iff (pos_of_mem_roundYears hy))
      have hyear : (100000000 : Int) ∈ roundYears := by decide
      have hyear' : t.tdiv (365 * day) ≤ 100000000 := by
        rw [Int.tdiv_eq_ediv_of_nonneg hpos.le]
        simp only [day, hour, minute, second]
        omega
      rw [hyears, Option.none_or, Option.none_or]
      by_cases hle : t ≤ (months 12).length
      · -- less than a year has no whole year
        have hzero : t.tdiv (365 * day) ≤ 1 := by
          rw [Int.tdiv_eq_ediv_of_nonneg hpos.le]
          simp only [length, day, hour, minute, second] at hle ⊢
          omega
        rw [List.find?_cons_of_pos (by simpa using hle),
          show roundYears = 1 :: roundYears.tail by decide,
          List.find?_cons_of_pos (by simpa using hzero)]
        rfl
      · rw [List.find?_cons_of_neg (by simpa using hle), List.find?_nil]
        dsimp only
        cases hfind : roundYears.find? (t.tdiv (365 * day) ≤ ·) with
        | some y =>
            have hshort := eq_or_before_of_find?_eq_some pairwise_roundYears hfind hyear
              (decide_eq_true hyear')
            rw [Option.getD_some, min_eq_left (by simp only [maxInt32]; omega)]
            rfl
        | none => exact absurd hyear' (by simpa using List.find?_eq_none.mp hfind _ hyear)

/-! ## Longer targets -/

variable {t u : Int} {s : TimeStep}

theorem atLeast_mem_ladder (ht : t ≤ 2 ^ 61) : atLeast t ∈ ladder :=
  List.mem_of_find?_eq_some (find?_ladder ht)

theorem le_limit_atLeast (ht : t ≤ 2 ^ 61) : t ≤ (atLeast t).limit := by
  simpa using List.find?_some (find?_ladder ht)

/-- No step with a smaller limit would do. -/
theorem limit_atLeast_le (ht : t ≤ 2 ^ 61) (hs : s ∈ ladder) (hle : t ≤ s.limit) :
    (atLeast t).limit ≤ s.limit := by
  rcases eq_or_before_of_find?_eq_some pairwise_ladder (find?_ladder ht) hs (decide_eq_true hle)
    with rfl | hlt
  · exact le_rfl
  · exact hlt.1.le

theorem limit_atLeast_mono (h : t ≤ u) (hu : u ≤ 2 ^ 61) :
    (atLeast t).limit ≤ (atLeast u).limit :=
  limit_atLeast_le (h.trans hu) (atLeast_mem_ladder hu) (h.trans (le_limit_atLeast hu))

/-- Steps are known by their limits. -/
theorem eq_of_limit_eq : ∀ s ∈ ladder, ∀ u ∈ ladder, s.limit = u.limit → s = u := by
  decide +kernel

/-- A longer target with another step exceeds the limit. -/
theorem limit_atLeast_lt (h : t ≤ u) (hu : u ≤ 2 ^ 61) (hne : atLeast t ≠ atLeast u) :
    (atLeast t).limit < u := by
  have hmem := atLeast_mem_ladder (h.trans hu)
  by_contra hle
  refine hne (eq_of_limit_eq _ hmem _ (atLeast_mem_ladder hu) ?_)
  exact (limit_atLeast_mono h hu).antisymm (limit_atLeast_le hu hmem (not_lt.mp hle))

/-- A step with a greater limit is at least twice as long. -/
theorem two_mul_length_le : ∀ s ∈ ladder, ∀ u ∈ ladder, s.limit < u.limit →
    2 * s.length ≤ u.length := by
  decide +kernel

end TimeStep

end Charting
