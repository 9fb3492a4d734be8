import Charting.Proofs.Scale.NumberLabels
import Charting.Proofs.Time.TickLabels

/-!
# Labels of ticks

Different ticks of a scale of numbers have different labels, as long as neighbours are farther apart
than the tolerance with which decimals are counted.  Labels of times show only a part of the time, so
that ticks of a time scale have the same label if they differ in the other part (`Scale.label_ticks`).
-/

namespace Charting

theorem fitsInt64_clampInt64 (t : Int) : TimeStep.FitsInt64 (clampInt64 t) := by
  unfold clampInt64
  split_ifs with hbelow habove
  · decide
  · decide
  · exact ⟨not_lt.mp hbelow, not_lt.mp habove⟩

/-- A timestamp that has been moved into the range of 64 bits is at one of its ends. -/
theorem eq_of_toInt64_eq {t a : Int} (h : Scalar.toInt64 (t : ℚ) = a) (ha : |a| ≤ 2 ^ 53) :
    t = a := by
  obtain ⟨hlower, hupper⟩ := abs_le.mp ha
  have hcut : truncate (t : ℚ) = t := by simp [truncate]
  change clampInt64 (truncate (t : ℚ)) = a at h
  rw [hcut, clampInt64] at h
  simp only [minInt64, maxInt64] at h
  split_ifs at h <;> omega

/-- The ticks of an interval of times are the boundaries of a step between two timestamps. -/
theorem timeTicks_eq (lo hi : ℚ) (count : Nat) :
    (timeTicks lo hi count).1.IsRegular ∧ ((timeTicks lo hi count).2 = [] ∨
      ∃ a b, TimeStep.FitsInt64 a ∧ (timeTicks lo hi count).2 =
        ((timeTicks lo hi count).1.boundaries a b).map fun t : Int ↦ (t : ℚ)) := by
  unfold timeTicks
  generalize (if lo ≤ hi then (lo, hi) else (hi, lo)) = ends
  dsimp only
  split
  case isTrue => exact ⟨TimeStep.isRegular_atLeast _, .inl rfl⟩
  case isFalse =>
    exact ⟨TimeStep.isRegular_atLeast _, .inr ⟨_, _, fitsInt64_clampInt64 _, rfl⟩⟩

theorem Scale.label_dateTicks (lo hi : ℚ) (count : Nat) :
    (dateTicks lo hi count).Pairwise fun t u ↦ ∀ a b, t.value = .time a → u.value = .time b →
      |a| ≤ 2 ^ 53 → |b| ≤ 2 ^ 53 →
        (t.label = u.label ↔ ∃ m m', Moment.ofTimestamp? a = some m ∧
          Moment.ofTimestamp? b = some m' ∧ (timeTicks lo hi count).1.Hides m m') := by
  obtain ⟨hregular, hnone | ⟨first, last, hfirst, hticks⟩⟩ := timeTicks_eq lo hi count
  · simp [dateTicks, hnone]
  · rw [dateTicks]
    dsimp only
    rw [hticks, List.map_map, List.pairwise_map]
    generalize (timeTicks lo hi count).1 = step at *
    have hlater : (step.boundaries first last).Pairwise (· < ·) := TimeStep.pairwise_boundaries
    refine (hlater.and (TimeStep.areBoundaries_of_boundaries hregular hfirst)).imp ?_
    rintro t u ⟨hlt, h⟩ a b ha hb hsmall hsmall'
    obtain rfl := eq_of_toInt64_eq (Value.time.inj ha) hsmall
    obtain rfl := eq_of_toInt64_eq (Value.time.inj hb) hsmall'
    have hmax : u < maxInt64 := (le_abs_self u).trans_lt (hsmall'.trans_lt (by decide))
    exact TimeStep.label_eq_iff hregular (h hmax) hlt.ne hsmall hsmall'

/-- On a scale of numbers, ticks that are farther apart than the tolerance have different labels.  On
a scale of times, two ticks have the same label exactly if they differ in nothing that their step
shows. -/
theorem Scale.label_ticks {s : Scale ℚ} {lo hi : ℚ} (hdomain : s.domain = .continuous lo hi)
    (count : Nat) :
    (s.kind ≠ .time →
      ((s.ticks count).Pairwise fun t u ↦
        ∀ x y, t.value = .number x → u.value = .number y → 1e-9 < y - x) →
      ((s.ticks count).map ScaleTick.label).Nodup) ∧
    (s.kind = .time →
      (s.ticks count).Pairwise fun t u ↦ ∀ a b, t.value = .time a → u.value = .time b →
        |a| ≤ 2 ^ 53 → |b| ≤ 2 ^ 53 →
          (t.label = u.label ↔ ∃ m m', Moment.ofTimestamp? a = some m ∧
            Moment.ofTimestamp? b = some m' ∧ (timeTicks lo hi count).1.Hides m m')) := by
  rw [ticks, hdomain]
  dsimp only
  constructor
  · intro hkind hfar
    rw [if_neg hkind] at hfar ⊢
    rw [numberTicks, List.pairwise_map] at hfar
    exact nodup_label_numberTicks (hfar.imp fun h ↦ h _ _ rfl rfl)
  · intro hkind
    rw [if_pos hkind]
    exact label_dateTicks lo hi count

/-- Two days of a scale of times. -/
def twoDays : Scale ℚ where
  channel := .x
  type := .temporal
  kind := .time
  domain := .continuous 0 172800000
  range := .interval 0 200
  zero := false
  nice := false
  paddingInner := 0
  paddingOuter := 0

/-- Shares of a whole. -/
def shares : Scale ℚ where
  channel := .y
  type := .quantitative
  kind := .linear
  domain := .continuous 0 1
  range := .interval 100 0
  zero := true
  nice := true
  paddingInner := 0
  paddingOuter := 0

theorem Scale.label_ticks_twoDays :
    (twoDays.domain = .continuous 0 172800000 ∧ twoDays.kind = .time ∧
      (twoDays.ticks 4).Pairwise fun t u ↦ ∀ a b, t.value = .time a → u.value = .time b →
        |a| ≤ 2 ^ 53 → |b| ≤ 2 ^ 53 →
          (t.label = u.label ↔ ∃ m m', Moment.ofTimestamp? a = some m ∧
            Moment.ofTimestamp? b = some m' ∧ (timeTicks (0 : ℚ) 172800000 4).1.Hides m m')) ∧
    (shares.domain = .continuous 0 1 ∧ shares.kind ≠ .time ∧
      (shares.ticks 2).map ScaleTick.value = [.number 0, .number 0.5, .number 1] ∧
      ((shares.ticks 2).map ScaleTick.label).Nodup) := by
  refine ⟨⟨rfl, rfl, (Scale.label_ticks rfl 4).2 rfl⟩, rfl, (by decide), ?_⟩
  have hvalues : (shares.ticks 2).map ScaleTick.value = [.number 0, .number 0.5, .number 1] := by
    decide +kernel
  have hfar : ((shares.ticks 2).map ScaleTick.value).Pairwise fun v w ↦
      ∀ x y, v = .number x → w = .number y → 1e-9 < y - x := by
    rw [hvalues]
    norm_num
  exact ⟨hvalues, (Scale.label_ticks rfl 2).1 (by decide) (List.pairwise_map.mp hfar)⟩

/-- Ticks that are half a day apart have the same label every other time. -/
theorem Scale.not_forall_nodup_label :
    ¬∀ (s : Scale ℚ) (lo hi : ℚ) (count : Nat), s.domain = .continuous lo hi →
      ((s.ticks count).map ScaleTick.label).Nodup := by
  intro h
  have hlabels : (twoDays.ticks 4).map ScaleTick.label =
      ["00:00", "12:00", "00:00", "12:00", "00:00"] := by decide +kernel
  have hnodup := h twoDays 0 172800000 4 rfl
  rw [hlabels] at hnodup
  revert hnodup
  decide

end Charting
