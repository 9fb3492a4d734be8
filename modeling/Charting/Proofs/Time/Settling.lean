import Mathlib.Dynamics.FixedPoints.Basic
import Charting.Proofs.Numeric.Integers
import Charting.Proofs.Time.Rounds

/-!
# Settling of time domains

An interval of time is extended round by round to boundaries of the step for its own length.  With
two parts or more the step does not change in all of the first ten rounds (`IsChanging.false`), and
when it does not, nothing changes any more: below a week and among the years a second change of the
step is the last one (`quotient_le_of_fixed`, `quotient_le_of_years`), and on the way from weeks to
years there is no room for more.
-/

namespace Charting

namespace IsQuotient

variable {c a l : Int} {q : Int → Int}

theorem lt_of_le (hq : IsQuotient c q) (ha : 0 ≤ a) (ha' : a ≤ 2 ^ 54) (h : q a ≤ l) :
    a < c * (l + 1) + a / 2 ^ 48 := by
  have hle : (q a + 1) * c ≤ (l + 1) * c := mul_le_mul_of_nonneg_right (by omega) hq.pos.le
  have := hq.lt_mul ha ha'
  rw [mul_comm c]
  omega

/-- A dividend of `c` small parts has a quotient that is no greater than such a part. -/
theorem le_of_le_mul (hq : IsQuotient c q) (ha : 0 ≤ a) (ha' : a ≤ 2 ^ 54)
    (hl : l < 2 ^ 48) (h : a ≤ c * l) : q a ≤ l := by
  by_contra hlt
  have hle : (l + 1) * c ≤ q a * c := mul_le_mul_of_nonneg_right (by omega) hq.pos.le
  have hmul := hq.mul_le ha ha'
  -- the error alone is not enough for one more
  have herror : c * 2 ^ 48 ≤ c * l := by
    rw [add_one_mul, mul_comm l] at hle
    omega
  exact absurd (le_of_mul_le_mul_left herror hq.pos) (not_le.mpr hl)

theorem nonneg (hq : IsQuotient c q) (ha : 0 ≤ a) (ha' : a ≤ 2 ^ 54) : 0 ≤ q a := by
  have hzero : 0 < (q 0 + 1) * c := by simpa using hq.lt_mul le_rfl (by norm_num)
  have := pos_of_mul_pos_left hzero hq.pos.le
  exact (by omega : 0 ≤ q 0).trans (hq.mono le_rfl ha ha')

theorem le_bound (hq : IsQuotient c q) (ha : 0 ≤ a) (ha' : a ≤ 2 ^ 54) :
    q a ≤ 2 ^ 61 := by
  have hmul := hq.mul_le ha ha'
  have hself : q a * 1 ≤ q a * c := mul_le_mul_of_nonneg_left hq.pos (hq.nonneg ha ha')
  omega

/-- A dividend that grows by a little has a quotient that grows by a little. -/
theorem le_add (hq : IsQuotient c q) (hc : 2 ≤ c) {b r : Int} (ha : 0 ≤ a) (hab : a ≤ b)
    (hb : b ≤ 2 ^ 54) (hr : 0 ≤ r) (h : b ≤ a + 2 * r) : q b ≤ q a + r + 65 := by
  have hlower := hq.lt_mul ha (hab.trans hb)
  have hupper := hq.mul_le (ha.trans hab) hb
  have hlt : q b * c < (q a + r + 66) * c := by
    have hparts : (r + 65) * 2 ≤ (r + 65) * c := mul_le_mul_of_nonneg_left hc (by omega)
    have herror : a / 2 ^ 48 ≤ 64 ∧ b / 2 ^ 48 ≤ 64 := by omega
    linarith
  have := lt_of_mul_lt_mul_right hlt (by omega)
  omega

end IsQuotient

open TimeStep

variable {c : Int} {q : Int → Int} {d : Int × Int}

/-- The step for the length of an interval, if targets are found in the given way. -/
def stepOf (q : Int → Int) (d : Int × Int) : TimeStep := atLeast (q (d.2 - d.1))

theorem isRegular_stepOf (q : Int → Int) (d : Int × Int) : (stepOf q d).IsRegular :=
  isRegular_atLeast _

/-- One round of extension. -/
def extendBy (q : Int → Int) (d : Int × Int) : Int × Int := (stepOf q d).extend d

/-- A round within the calendar, from an interval that is not too long. -/
structure IsRound (q : Int → Int) (d : Int × Int) : Prop where
  /-- There is something to extend. -/
  lt : d.1 < d.2
  /-- The length is bounded. -/
  width_le : d.2 - d.1 ≤ 2 ^ 54
  /-- The calendar is not left. -/
  canExtend : (stepOf q d).CanExtend d

theorem isRound_of_abs_le (hlt : d.1 < d.2) (hfst : |d.1| ≤ 2 ^ 53) (hsnd : |d.2| ≤ 2 ^ 53)
    (hextend : (stepOf q d).CanExtend d) : IsRound q d := by
  rw [abs_le] at hfst hsnd
  exact ⟨hlt, by omega, hextend⟩

section Rounds

variable (hq : IsQuotient c q) (h : IsRound q d)

include hq h

theorem IsRound.quotient_le : q (d.2 - d.1) ≤ 2 ^ 61 :=
  hq.le_bound (by linarith [h.lt]) h.width_le

theorem IsRound.stepOf_mem : stepOf q d ∈ ladder := atLeast_mem_ladder (h.quotient_le hq)

theorem IsRound.isForward : (stepOf q d).IsForward :=
  isForward_of_mem_ladder _ (h.stepOf_mem hq)

theorem IsRound.le_limit : q (d.2 - d.1) ≤ (stepOf q d).limit :=
  le_limit_atLeast (h.quotient_le hq)

/-- The width does not get smaller. -/
theorem IsRound.width_mono : d.2 - d.1 ≤ (extendBy q d).2 - (extendBy q d).1 := by
  obtain ⟨hlower, hupper⟩ := extend_outwards (h.isForward hq) h.canExtend
  rw [extendBy]
  omega

end Rounds

/-! ## Below a week -/

/-- The boundaries of weeks are counted from a Sunday. -/
def TimeStep.offset : TimeStep → Int
  | week => sundayOffset
  | _ => 0

theorem boundary_of_isFixed {s : TimeStep} (h : s.isFixed) (k : Int) :
    s.boundary k = k * s.limit + s.offset := by
  cases s with
  | millis ms => simp [boundary, limit, TimeStep.offset]
  | week => rfl
  | months n => simp [isFixed] at h

/-- Steps of a fixed length have a common part with the longer ones. -/
theorem isCommonPart_of_isFixed : ∀ s ∈ ladder, ∀ u ∈ ladder, s.limit < u.limit → u.isFixed →
    s.isFixed ∧ s.offset = 0 ∧ IsCommonPart (Int.gcd s.limit u.limit) s.limit u.limit ∧
      (Int.gcd s.limit u.limit : Int) ∣ u.offset := by
  decide +kernel

theorem months_of_not_isFixed : ∀ s ∈ ladder, s.isFixed = false →
    s = months 1 ∨ s = months 3 ∨ ∃ y ∈ roundYears, s = months (12 * y) := by
  decide +kernel

theorem limit_of_isFixed : ∀ s ∈ ladder, s.isFixed → 0 < s.limit ∧ s.limit ≤ weekLength := by
  decide +kernel

theorem IsRound.isExtended (hq : IsQuotient c q) (h : IsRound q d)
    (hfixed : (stepOf q d).isFixed) :
    IsExtended (stepOf q d).limit (stepOf q d).offset d (extendBy q d) := by
  obtain ⟨e, he, hextended⟩ := exists_isExtended (h.isForward hq) h.canExtend strictMono_id
    (boundary_of_isFixed hfixed) rfl
  rwa [extendBy, he]

/-- Below a week the second change of the step is the last one. -/
theorem quotient_le_of_fixed (hq : IsQuotient c q) (hc : 2 ≤ c) (h : IsRound q d)
    (h' : IsRound q (extendBy q d)) (h'' : IsRound q (extendBy q (extendBy q d)))
    (hfixed' : (stepOf q (extendBy q d)).isFixed)
    (hlt : (stepOf q d).limit < (stepOf q (extendBy q d)).limit) :
    q ((extendBy q (extendBy q d)).2 - (extendBy q (extendBy q d)).1) ≤
      (stepOf q (extendBy q d)).limit := by
  obtain ⟨hfixed, hoffset, hpart, hdvd⟩ := isCommonPart_of_isFixed _ (h.stepOf_mem hq) _
    (h'.stepOf_mem hq) hlt hfixed'
  obtain ⟨hpos, hweek⟩ := limit_of_isFixed _ (h.stepOf_mem hq) hfixed
  have hweek' := (limit_of_isFixed _ (h'.stepOf_mem hq) hfixed').2
  have hextended := h.isExtended hq hfixed
  have hextended' := h'.isExtended hq hfixed'
  have hwidth := hq.lt_of_le (by linarith [h.lt]) h.width_le (h.le_limit hq)
  -- a step of one millisecond does not change anything
  have htwo : 2 ≤ (stepOf q d).limit := by
    by_contra hone
    rw [show (stepOf q d).limit = 1 by omega] at hextended
    rw [hextended.eq_of_length_one] at hlt
    exact lt_irrefl _ hlt
  rw [hoffset] at hextended
  have herror : (d.2 - d.1) / 2 ^ 48 = 0 ∨
      0 < (d.2 - d.1) / 2 ^ 48 ∧ (d.2 - d.1) / 2 ^ 48 + 8 ≤ c := by
    have hle := h.width_le
    have hlt := h.lt
    rcases lt_or_ge (d.2 - d.1) (2 ^ 48) with hshort | hlong
    · exact .inl (by omega)
    · -- so many milliseconds take many weeks
      have hparts : c * ((stepOf q d).limit + 1) ≤ c * (weekLength + 1) :=
        mul_le_mul_of_nonneg_left (by omega) (by omega)
      simp only [weekLength, day, hour, minute, second] at hparts
      exact .inr (by omega)
  have hle := hextended.width_le hextended' hpart hdvd htwo hc herror hwidth
  refine hq.le_of_le_mul (by linarith [h''.lt]) h''.width_le ?_ hle
  exact hweek'.trans_lt (by decide)

/-! ## Years -/

theorem boundary_months_year (y k : Int) :
    (months (12 * y)).boundary k = yearStart (k * y + 0) := by
  rw [boundary, yearStart, add_zero, mul_left_comm]

theorem isCommonPart_of_mem_roundYears : ∀ y ∈ roundYears, ∀ z ∈ roundYears, y < z →
    IsCommonPart (Int.gcd y z) y z := by
  decide +kernel

/-- Among the years the second change of the step is the last one, as long as leap days do not add
up to a quarter of a year more than every fourth year has. -/
theorem quotient_le_of_years (hq : IsQuotient c q) (hc : 2 ≤ c) (h : IsRound q d)
    (h' : IsRound q (extendBy q d)) (h'' : IsRound q (extendBy q (extendBy q d)))
    {p r y z : Int} (hd : d = (yearStart p, yearStart r)) (hy : y ∈ roundYears)
    (hz : z ∈ roundYears) (hstep : stepOf q d = months (12 * y))
    (hstep' : stepOf q (extendBy q d) = months (12 * z)) (hyz : y < z) (hsmall : z ≤ 1000) :
    q ((extendBy q (extendBy q d)).2 - (extendBy q (extendBy q d)).1) ≤
      (months (12 * z)).limit := by
  have hypos := pos_of_mem_roundYears hy
  have hzpos := pos_of_mem_roundYears hz
  obtain ⟨e, he, hextended⟩ := exists_isExtended (h.isForward hq) h.canExtend
    yearStart_strictMono (hstep ▸ boundary_months_year y) hd
  obtain ⟨e', he', hextended'⟩ := exists_isExtended (h'.isForward hq) h'.canExtend
    yearStart_strictMono (hstep' ▸ boundary_months_year z) he
  replace he' : extendBy q (extendBy q d) = (yearStart e'.1, yearStart e'.2) := he'
  rw [he'] at h'' ⊢
  have hpart := isCommonPart_of_mem_roundYears y hy z hz hyz
  -- steps of one year leave the ends as they are
  have htwo : 2 ≤ y := by
    by_contra hone
    rw [show y = 1 by omega] at hextended
    have hsame : extendBy q d = d := he.trans (hextended.eq_of_length_one ▸ hd.symm)
    rw [hsame, hstep, months.injEq] at hstep'
    omega
  have hwidth : r - p < c * (y + 1) + (if d.2 - d.1 < 2 ^ 48 then 0 else 1) ∧
      (d.2 - d.1 < 2 ^ 48 ∨ 9 ≤ c) := by
    have hlong := hq.lt_of_le (by linarith [h.lt]) h.width_le (h.le_limit hq)
    have hle := h.width_le
    have hlt := h.lt
    rw [hstep, limit_months_year hypos, sub_add_cancel, ← mul_assoc] at hlong
    rw [hd] at hlong hle hlt ⊢
    have hpr := yearStart_strictMono.lt_iff_lt.mp hlt
    have hdays := (yearStart_sub_bounds (p := p) (n := r - p) (by omega)).1
    rw [add_sub_cancel] at hdays
    have hparts : c * (y + 1) ≤ c * 1000 := mul_le_mul_of_nonneg_left (by omega) (by omega)
    simp only [msPerDay, day, hour, minute, second] at hlong hdays hle hlt ⊢
    split_ifs <;> omega
  have hle : e'.2 - e'.1 ≤ c * z := by
    refine hextended.width_le hextended' hpart (dvd_zero _) htwo hc ?_ hwidth.1
    split_ifs <;> omega
  have hdays : yearStart e'.2 - yearStart e'.1 ≤ c * (months (12 * z)).limit := by
    have hlt : e'.1 < e'.2 := yearStart_strictMono.lt_iff_lt.mp h''.lt
    have hdays := (yearStart_sub_bounds (p := e'.1) (n := e'.2 - e'.1) (by omega)).2
    have hparts : c * z ≤ c * 1000 := mul_le_mul_of_nonneg_left hsmall (by omega)
    rw [add_sub_cancel] at hdays
    rw [limit_months_year hzpos, mul_sub, mul_one, ← mul_assoc, mul_add, mul_one]
    simp only [msPerDay, day, hour, minute, second] at hdays ⊢
    omega
  refine hq.le_of_le_mul (by linarith [h''.lt]) h''.width_le ?_ hdays
  rw [limit_months_year hzpos]
  simp only [day, hour, minute, second]
  omega

/-! ## From round to round -/

section Next

variable (hq : IsQuotient c q) (h : IsRound q d) (h' : IsRound q (extendBy q d))

include hq h h'

theorem quotient_mono : q (d.2 - d.1) ≤ q ((extendBy q d).2 - (extendBy q d).1) :=
  hq.mono (by linarith [h.lt]) (h.width_mono hq) h'.width_le

/-- If the step changes, then because its limit has been exceeded. -/
theorem limit_lt_of_ne (hne : stepOf q d ≠ stepOf q (extendBy q d)) :
    (stepOf q d).limit < q ((extendBy q d).2 - (extendBy q d).1) :=
  limit_atLeast_lt (quotient_mono hq h h') (h'.quotient_le hq) hne

/-- One round makes the parts longer by one step at most. -/
theorem quotient_extendBy_le (hc : 2 ≤ c) : q ((extendBy q d).2 - (extendBy q d).1) ≤
    q (d.2 - d.1) + (stepOf q d).reach + 65 := by
  obtain ⟨hlower, hupper⟩ := extend_lt (h.isForward hq) h.canExtend
  obtain ⟨hlower', hupper'⟩ := extend_outwards (h.isForward hq) h.canExtend
  have hwidth := h.width_mono hq
  have hlt := h.lt
  rw [extendBy] at *
  exact hq.le_add hc (by omega) hwidth h'.width_le (by omega) (by omega)

end Next

theorem reach_le_of_limit_le : ∀ s ∈ ladder, s.limit ≤ 90 * day → s.reach ≤ 93 * day := by
  decide +kernel

theorem eq_months_twelve : ∀ s ∈ ladder, 90 * day < s.limit → s.limit ≤ (months 12).limit →
    s = months 12 := by
  decide +kernel

/-- From a quarter of a year it is not far enough for more than a year. -/
theorem stepOf_eq_of_quarter (hq : IsQuotient c q) (hc : 2 ≤ c) (h : IsRound q d)
    (h' : IsRound q (extendBy q d)) (h'' : IsRound q (extendBy q (extendBy q d)))
    (hle : q (d.2 - d.1) ≤ 90 * day) (hlt : 90 * day < q ((extendBy q d).2 - (extendBy q d).1)) :
    stepOf q (extendBy q d) = stepOf q (extendBy q (extendBy q d)) := by
  have hstep {d : Int × Int} (h : IsRound q d) (hlt : 90 * day < q (d.2 - d.1))
      (hle : q (d.2 - d.1) ≤ (months 12).limit) : stepOf q d = months 12 := by
    refine eq_months_twelve _ (h.stepOf_mem hq) (hlt.trans_le (h.le_limit hq)) ?_
    exact limit_atLeast_le (h.quotient_le hq) (by decide) hle
  have hlimit := limit_atLeast_le (h.quotient_le hq) (show months 3 ∈ ladder by decide) hle
  have hreach := reach_le_of_limit_le _ (h.stepOf_mem hq) hlimit
  have hnext := quotient_extendBy_le hq h h' hc
  have hmono := quotient_mono hq h' h''
  have hyear : (months 12).limit = 730 * day - 1 := by decide
  have hday : day = 86400000 := by decide
  have hfirst := hstep h' hlt (by omega)
  have hnext' := quotient_extendBy_le hq h' h'' hc
  rw [hfirst, show (months 12).reach = 372 * day by decide] at hnext'
  rw [hfirst, hstep h'' (hlt.trans_le hmono) (by omega)]

/-! ## Ten rounds -/

theorem limit_le_month : ∀ s ∈ ladder, ∀ u ∈ ladder, s.limit < u.limit → u.limit ≤ 90 * day →
    s.limit ≤ 30 * day := by
  decide +kernel

theorem isFixed_of_limit_lt : ∀ s ∈ ladder, ∀ u ∈ ladder, s.limit < u.limit →
    u.limit ≤ 30 * day → s.isFixed := by
  decide +kernel

theorem exists_year_of_limit_lt : ∀ s ∈ ladder, 90 * day < s.limit →
    ∃ y ∈ roundYears, s = months (12 * y) := by
  decide +kernel

theorem two_thousand_le : ∀ y ∈ roundYears, 1000 < y → 2000 ≤ y := by
  decide

theorem le_two_hundred_thousand : ∀ y ∈ roundYears, y ≤ 262143 → y ≤ 200000 := by
  decide

theorem lt_of_limit_lt {y z : Int} (hy : 0 < y) (hz : 0 < z)
    (h : (months (12 * y)).limit < (months (12 * z)).limit) : y < z := by
  rw [limit_months_year hy, limit_months_year hz, sub_lt_sub_iff_right] at h
  have := lt_of_mul_lt_mul_right h (by decide)
  omega

/-- Ten rounds in which the step always changes. -/
structure IsChanging (q : Int → Int) (r : ℕ → Int × Int) : Prop where
  /-- Each round begins where the one before has ended. -/
  next (k : ℕ) : r (k + 1) = extendBy q (r k)
  /-- The calendar is not left. -/
  isRound {k : ℕ} : k < 10 → IsRound q (r k)
  /-- No step is used twice in a row. -/
  ne {k : ℕ} : k < 9 → stepOf q (r k) ≠ stepOf q (r (k + 1))

namespace IsChanging

variable {r : ℕ → Int × Int} {k : ℕ}

variable (hq : IsQuotient c q) (h : IsChanging q r)

include hq h

theorem stepOf_mem (hk : k < 10) : stepOf q (r k) ∈ ladder := (h.isRound hk).stepOf_mem hq

theorem limit_lt_quotient (hk : k < 9) :
    (stepOf q (r k)).limit < q ((r (k + 1)).2 - (r (k + 1)).1) := by
  have hround : IsRound q (r (k + 1)) := h.isRound (by omega)
  have hne := h.ne hk
  rw [h.next k] at hround hne ⊢
  exact limit_lt_of_ne hq (h.isRound (by omega)) hround hne

theorem limit_lt_limit (hk : k < 9) : (stepOf q (r k)).limit < (stepOf q (r (k + 1))).limit :=
  (h.limit_lt_quotient hq hk).trans_le ((h.isRound (by omega)).le_limit hq)

variable (hc : 2 ≤ c)

include hc

/-- Parts of at most a quarter of a year stay so for some time. -/
theorem quotient_le_quarter (hle : q ((r 0).2 - (r 0).1) ≤ 90 * day) (hk : k < 4) :
    q ((r k).2 - (r k).1) ≤ 90 * day := by
  induction k with
  | zero => exact hle
  | succ k ih =>
      by_contra hlt
      have hround : IsRound q (r (k + 1)) := h.isRound (by omega)
      have hround' : IsRound q (r (k + 2)) := h.isRound (by omega)
      have hne := h.ne (show k + 1 < 9 by omega)
      rw [h.next (k + 1), h.next k] at hround' hne
      rw [h.next k] at hround hlt
      exact hne (stepOf_eq_of_quarter hq hc (h.isRound (by omega)) hround hround' (ih (by omega))
        (not_le.mp hlt))

/-- There are not enough steps below a quarter of a year. -/
theorem quarter_lt_quotient : 90 * day < q ((r 0).2 - (r 0).1) := by
  by_contra hle
  have hmonths : months 3 ∈ ladder := by decide
  have hthree := limit_atLeast_le ((h.isRound (show 3 < 10 by omega)).quotient_le hq) hmonths
    (h.quotient_le_quarter hq hc (not_lt.mp hle) (by omega))
  have hmonth := limit_le_month _ (h.stepOf_mem hq (by omega)) _
    (h.stepOf_mem hq (by omega)) (h.limit_lt_limit hq (show 2 < 9 by omega)) hthree
  have hfixed := isFixed_of_limit_lt _ (h.stepOf_mem hq (by omega)) _
    (h.stepOf_mem hq (by omega)) (h.limit_lt_limit hq (show 1 < 9 by omega)) hmonth
  have hlimit := h.limit_lt_limit hq (show 0 < 9 by omega)
  have hlast := h.limit_lt_quotient hq (show 1 < 9 by omega)
  have hround : IsRound q (r 1) := h.isRound (by omega)
  have hround' : IsRound q (r 2) := h.isRound (by omega)
  rw [h.next 1, h.next 0] at hround' hlast
  rw [h.next 0] at hround hfixed hlimit
  refine absurd hlast (not_lt.mpr ?_)
  exact quotient_le_of_fixed hq hc (h.isRound (by omega)) hround hround' hfixed hlimit

/-- Longer parts have steps of years. -/
theorem exists_year (hk : k < 10) : ∃ y ∈ roundYears, stepOf q (r k) = months (12 * y) := by
  refine exists_year_of_limit_lt _ (h.stepOf_mem hq hk) ?_
  induction k with
  | zero => exact (h.quarter_lt_quotient hq hc).trans_le ((h.isRound hk).le_limit hq)
  | succ k ih => exact (ih (by omega)).trans (h.limit_lt_limit hq (by omega))

/-- The first round leads to beginnings of years, so that three changes of small steps are one too
many. -/
theorem exists_thousand_lt : ∃ z ∈ roundYears, stepOf q (r 2) = months (12 * z) ∧ 1000 < z := by
  obtain ⟨x, -, hfirst⟩ := h.exists_year hq hc (show 0 < 10 by omega)
  obtain ⟨y, hy, hstep⟩ := h.exists_year hq hc (show 1 < 10 by omega)
  obtain ⟨z, hz, hstep'⟩ := h.exists_year hq hc (show 2 < 10 by omega)
  refine ⟨z, hz, hstep', ?_⟩
  by_contra hsmall
  have hround : IsRound q (r 0) := h.isRound (by omega)
  obtain ⟨j, k, hd⟩ := exists_extend_eq (hround.isForward hq) hround.canExtend
  rw [hfirst, boundary_months_year, boundary_months_year, ← hfirst] at hd
  have hlimit := h.limit_lt_limit hq (show 1 < 9 by omega)
  rw [hstep, hstep'] at hlimit
  have hlast := h.limit_lt_quotient hq (show 2 < 9 by omega)
  have hround' : IsRound q (r 2) := h.isRound (by omega)
  have hround'' : IsRound q (r 3) := h.isRound (by omega)
  rw [hstep', h.next 2, h.next 1] at hlast
  rw [h.next 2, h.next 1] at hround''
  rw [h.next 1] at hround' hstep'
  refine absurd hlast (not_lt.mpr ?_)
  exact quotient_le_of_years hq hc (h.isRound (by omega)) hround' hround'' ((h.next 0).trans hd) hy
    hz hstep hstep' (lt_of_limit_lt (pos_of_mem_roundYears hy) (pos_of_mem_roundYears hz) hlimit)
    (not_lt.mp hsmall)

/-- From two thousand years on every step is at least twice as long as the one before. -/
theorem pow_mul_le_length (hk : k < 8) :
    2 ^ k * (months 24000).length ≤ (stepOf q (r (k + 2))).length := by
  induction k with
  | zero =>
      obtain ⟨z, hz, hstep, hlarge⟩ := h.exists_thousand_lt hq hc
      have := two_thousand_le z hz hlarge
      rw [hstep]
      simp only [length, day, hour, minute, second]
      omega
  | succ k ih =>
      have htwice := two_mul_length_le _ (h.stepOf_mem hq (by omega)) _
        (h.stepOf_mem hq (by omega)) (h.limit_lt_limit hq (show k + 2 < 9 by omega))
      rw [pow_succ]
      linarith [ih (by omega)]

/-- The calendar is too short for ten steps. -/
protected theorem false : False := by
  obtain ⟨x, hx, hlast⟩ := h.exists_year hq hc (show 9 < 10 by omega)
  have hround : IsRound q (r 9) := h.isRound (by omega)
  have hle := le_two_hundred_thousand x hx
    (le_of_canExtend (pos_of_mem_roundYears hx) hround.lt (hlast ▸ hround.canExtend))
  have hlength := h.pow_mul_le_length hq hc (show 7 < 8 by omega)
  rw [hlast] at hlength
  simp only [length, day, hour, minute, second] at hlength
  omega

end IsChanging

end Charting
