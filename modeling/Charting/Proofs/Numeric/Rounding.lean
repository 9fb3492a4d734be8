import Mathlib.Data.Rat.Floor
import Mathlib.Tactic.Linarith
import Charting.Numeric.Rounding

/-!
# Rounding to the nearest integer

Rounding is off by at most one half (`abs_roundHalfAway_sub_le`), so that no integer is nearer than
the one it comes to (`abs_roundHalfAway_sub_le_abs`).
-/

namespace Charting

/-- Rounding is off by at most one half. -/
theorem abs_roundHalfAway_sub_le (q : Rat) : |(roundHalfAway q : Rat) - q| ≤ 1 / 2 := by
  have hfloor (x : Rat) : (x.floor : Rat) ≤ x ∧ x < x.floor + 1 :=
    ⟨Int.floor_le x, Int.lt_floor_add_one x⟩
  rw [abs_le, roundHalfAway]
  split
  · obtain ⟨hle, hlt⟩ := hfloor (q + 1 / 2)
    constructor <;> linarith
  · obtain ⟨hle, hlt⟩ := hfloor (-q + 1 / 2)
    push_cast
    constructor <;> linarith

/-- No integer is nearer than the one that is rounded to. -/
theorem abs_roundHalfAway_sub_le_abs (q : Rat) (k : Int) :
    |(roundHalfAway q : Rat) - q| ≤ |(k : Rat) - q| := by
  by_cases hk : k = roundHalfAway q
  · rw [hk]
  · -- Another integer is at least one away from it.
    have herror := abs_roundHalfAway_sub_le q
    have hone : (1 : Rat) ≤ |(k : Rat) - q| + |(roundHalfAway q : Rat) - q| :=
      calc (1 : Rat) ≤ |(k : Rat) - roundHalfAway q| := by
            exact_mod_cast Int.one_le_abs (sub_ne_zero.mpr hk)
        _ ≤ |(k : Rat) - q| + |q - roundHalfAway q| := abs_sub_le _ _ _
        _ = |(k : Rat) - q| + |(roundHalfAway q : Rat) - q| := by rw [abs_sub_comm q]
    linarith

end Charting
