import Mathlib.Tactic.FieldSimp
import Mathlib.Tactic.Positivity
import Charting.Interaction.Params
import Charting.Proofs.Numeric.Laws
import Charting.Proofs.Numeric.Rounding

/-!
# Stops of a slider

A slider stands at a number of its range, and on its grid if it has one.  `snapToGrid` moves a
number of the range to the nearest of these stops (`isNearestStop_snapToGrid`), and so leaves stops
where they are.  Numbers are exact here.
-/

namespace Charting

/-! ## Stops -/

/-- A number that a slider can stand at: one of its range, on the grid if there is a grid. -/
structure IsStop (min max : Rat) (step : Option Rat) (x : Rat) : Prop where
  /-- It is not before the range. -/
  min_le : min ≤ x
  /-- It is not behind the range. -/
  le_max : x ≤ max
  /-- It is a whole number of steps from the start of the range. -/
  onGrid : ∀ h, step = some h → 0 < h → ∃ k : Nat, x = min + k * h

/-- A stop such that no other stop is nearer to a number. -/
structure IsNearestStop (min max : Rat) (step : Option Rat) (x y : Rat) : Prop where
  /-- It is a stop. -/
  isStop : IsStop min max step y
  /-- No stop is nearer. -/
  abs_sub_le : ∀ z, IsStop min max step z → |y - x| ≤ |z - x|

variable {min max x h : Rat} {step : Option Rat}

/-- A stop is the nearest one to itself only. -/
theorem IsNearestStop.eq_of_isStop {y : Rat} (hy : IsNearestStop min max step x y)
    (hx : IsStop min max step x) : y = x := by
  have hle : |y - x| ≤ |x - x| := hy.abs_sub_le x hx
  rw [sub_self, abs_zero] at hle
  exact sub_eq_zero.mp (abs_nonpos_iff.mp hle)

/-! ## Multiples of the step -/

/-- How far a multiple is away, in steps. -/
theorem abs_multiple_sub (hpos : 0 < h) (k : Rat) :
    |min + k * h - x| = |k - (x - min) / h| * h := by
  have heq : min + k * h - x = (k - (x - min) / h) * h := by
    field_simp
    ring
  rw [heq, abs_mul, abs_of_pos hpos]

/-- A multiple is a stop if it is in the range. -/
theorem isStop_multiple {k : Int} (hpos : 0 < h) (hk : 0 ≤ k) (hmax : min + k * h ≤ max) :
    IsStop min max (some h) (min + k * h) := by
  have hk' : (0 : Rat) ≤ k := by exact_mod_cast hk
  refine ⟨?_, hmax, ?_⟩
  · have hnonneg : 0 ≤ (k : Rat) * h := by positivity
    linarith
  · intro h' hh' _
    obtain rfl : h = h' := Option.some.inj hh'
    obtain ⟨n, rfl⟩ := Int.eq_ofNat_of_zero_le hk
    exact ⟨n, by push_cast; rfl⟩

/-- Stops are multiples, so that a multiple is the nearest stop if no multiple of the range is
nearer. -/
theorem isNearestStop_multiple {k : Int} (hpos : 0 < h)
    (hstop : IsStop min max (some h) (min + k * h))
    (hk : ∀ j : Int, min + j * h ≤ max →
      |(k : Rat) - (x - min) / h| ≤ |(j : Rat) - (x - min) / h|) :
    IsNearestStop min max (some h) x (min + k * h) := by
  refine ⟨hstop, ?_⟩
  rintro z ⟨-, hmax, hgrid⟩
  obtain ⟨n, rfl⟩ := hgrid h rfl hpos
  rw [abs_multiple_sub hpos, abs_multiple_sub hpos]
  refine mul_le_mul_of_nonneg_right ?_ hpos.le
  simpa using hk n (by simpa using hmax)

/-! ## Moving to a stop -/

/-- Without a positive step, a number stays where it is. -/
theorem snapToGrid_of_not_pos (hstep : ∀ h, step = some h → ¬0 < h) :
    snapToGrid x min max step = x := by
  have hnone : step.filter (fun s ↦ Scalar.isFinite s && decide ((0.0 : Rat) < s)) = none := by
    cases step with
    | none => rfl
    | some h =>
        have hneg : ¬(0.0 : Rat) < h := Exact.zero_eq ▸ hstep h rfl
        simp [Option.filter, hneg]
  rw [snapToGrid, hnone]

/-- With a positive step, a number is moved to the nearest multiple, or to the one before if that is
beyond the range. -/
theorem snapToGrid_of_pos (hpos : 0 < h) :
    snapToGrid x min max (some h) =
      if max < min + roundHalfAway ((x - min) / h) * h then
        min + roundHalfAway ((x - min) / h) * h - h
      else min + roundHalfAway ((x - min) / h) * h := by
  have hpos' : (0.0 : Rat) < h := Exact.zero_eq ▸ hpos
  have hsome : (some h).filter (fun s ↦ Scalar.isFinite s && decide ((0.0 : Rat) < s)) =
      some h := by
    simp only [Option.filter, hpos', decide_true, Bool.and_true]
    rfl
  rw [snapToGrid, hsome]
  rfl

/-- The multiple that a number is rounded to is the nearest stop if it is in the range. -/
theorem isNearestStop_of_le (hpos : 0 < h) (hmin : min ≤ x)
    (hle : min + roundHalfAway ((x - min) / h) * h ≤ max) :
    IsNearestStop min max (some h) x (min + roundHalfAway ((x - min) / h) * h) := by
  have hquotient : 0 ≤ (x - min) / h := div_nonneg (by linarith) hpos.le
  have herror := abs_le.mp (abs_roundHalfAway_sub_le ((x - min) / h))
  have hk : -1 < roundHalfAway ((x - min) / h) := by
    have hlt : (-1 : Rat) < roundHalfAway ((x - min) / h) := by linarith
    exact_mod_cast hlt
  refine isNearestStop_multiple hpos (isStop_multiple hpos (by omega) hle) ?_
  intro j _
  exact abs_roundHalfAway_sub_le_abs ((x - min) / h) j

/-- If the multiple that a number is rounded to is beyond the range, then the number is between it
and the one before, which is the last multiple of the range and so the nearest stop. -/
theorem isNearestStop_of_lt (hpos : 0 < h) (hmin : min ≤ x) (hmax : x ≤ max)
    (hlt : max < min + roundHalfAway ((x - min) / h) * h) :
    IsNearestStop min max (some h) x (min + roundHalfAway ((x - min) / h) * h - h) := by
  have hquotient : 0 ≤ (x - min) / h := div_nonneg (by linarith) hpos.le
  have herror := abs_le.mp (abs_roundHalfAway_sub_le ((x - min) / h))
  have hx : (x - min) / h * h = x - min := div_mul_cancel₀ _ hpos.ne'
  generalize hq : (x - min) / h = q at *
  generalize roundHalfAway q = k at *
  have hqk : q < k := lt_of_mul_lt_mul_right (by linarith) hpos.le
  have hkpos : 0 < k := by
    have hpos' : (0 : Rat) < k := by linarith
    exact_mod_cast hpos'
  have hbefore : ((k - 1 : Int) : Rat) ≤ q := by
    push_cast
    linarith
  have heq : min + k * h - h = min + ((k - 1 : Int) : Rat) * h := by
    push_cast
    ring
  rw [heq]
  refine isNearestStop_multiple hpos (isStop_multiple hpos (by omega) ?_) ?_
  · have hmul := mul_le_mul_of_nonneg_right hbefore hpos.le
    linarith
  · -- All multiples of the range come up to `k - 1`, which is not behind `q`.
    intro j hj
    have hjk : (j : Rat) < k := lt_of_mul_lt_mul_right (by linarith) hpos.le
    have hj' : (j : Rat) ≤ (k - 1 : Int) := by
      have hjk' : j < k := by exact_mod_cast hjk
      exact_mod_cast (by omega : j ≤ k - 1)
    rw [hq, abs_of_nonpos (by linarith), abs_of_nonpos (by linarith)]
    linarith

/-- A slider moves to the nearest stop. -/
theorem isNearestStop_snapToGrid (hmin : min ≤ x) (hmax : x ≤ max) :
    IsNearestStop min max step x (snapToGrid x min max step) := by
  by_cases hstep : ∃ h, step = some h ∧ 0 < h
  · obtain ⟨h, rfl, hpos⟩ := hstep
    rw [snapToGrid_of_pos hpos]
    split
    case isTrue hlt => exact isNearestStop_of_lt hpos hmin hmax hlt
    case isFalse hle => exact isNearestStop_of_le hpos hmin (not_lt.mp hle)
  · have hnone : ∀ h, step = some h → ¬0 < h := fun h hh hpos ↦ hstep ⟨h, hh, hpos⟩
    rw [snapToGrid_of_not_pos hnone]
    refine ⟨⟨hmin, hmax, fun h hh hpos ↦ absurd hpos (hnone h hh)⟩, ?_⟩
    intro z _
    rw [sub_self, abs_zero]
    exact abs_nonneg _

/-- A stop stays where it is. -/
theorem snapToGrid_of_isStop (hx : IsStop min max step x) : snapToGrid x min max step = x :=
  (isNearestStop_snapToGrid hx.min_le hx.le_max).eq_of_isStop hx

end Charting
