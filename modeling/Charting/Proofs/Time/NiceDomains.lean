import Charting.Proofs.Numeric.DoubleIntegers
import Charting.Proofs.Time.Settling
import Charting.Scale.Temporal

/-!
# Nice domains of time

`niceTimeDomain` extends an interval of time in ten rounds.  As long as the rounds stay in the
calendar the result contains the interval, and with two parts or more it is its own nice domain;
with a single part only if it is one step long (`niceTimeDomain_contains_and_settles`).  At the end
of the calendar an interval can lose its upper end instead (`TimeStep.ceil_lt_of_not_hasNext`).
-/

namespace Charting

open Function (IsFixedPt)
open TimeStep

variable {R : Type} [Scalar R] {count : Nat} {d : Int × Int}

/-- What the steps of an interval should be as long as, where its width is computed in 64 bits. -/
def targetLength (R : Type) [Scalar R] (count : Nat) (width : Int) : Int :=
  Scalar.toInt64 (Scalar.ofInt (wrapInt64 width) / Scalar.ofNat (max count 1) : R)

/-- One round of extension. -/
def extendRound (R : Type) [Scalar R] (count : Nat) (d : Int × Int) : Int × Int :=
  extendBy (targetLength R count) d

/-- All rounds stay in the range of timestamps and in the calendar. -/
def StaysInCalendar (R : Type) [Scalar R] (count : Nat) (d : Int × Int) : Prop :=
  ∀ k < timeRounds, (stepOf (targetLength R count) ((extendRound R count)^[k] d)).CanExtend
    ((extendRound R count)^[k] d)

instance : DecidablePred (StaysInCalendar R count) := fun d ↦
  inferInstanceAs <| Decidable <| ∀ k < timeRounds,
    (stepOf (targetLength R count) ((extendRound R count)^[k] d)).CanExtend
      ((extendRound R count)^[k] d)

/-- An interval from one boundary of the step for its length to the following one. -/
def IsOneTimeStep (R : Type) [Scalar R] (count : Nat) (d : Int × Int) : Prop :=
  ∃ k, d = ((stepOf (targetLength R count) d).boundary k,
    (stepOf (targetLength R count) d).boundary (k + 1))

theorem extendTime_eq_iterate (fuel : Nat) (lo hi : Int) :
    extendTime R count fuel lo hi = (extendRound R count)^[fuel] (lo, hi) := by
  induction fuel generalizing lo hi with
  | zero => rfl
  | succ fuel ih =>
      have hround : extendRound R count (lo, hi) =
        ((timeStep (Scalar.ofInt (wrapInt64 (hi - lo)) : R) count).floor lo,
          (timeStep (Scalar.ofInt (wrapInt64 (hi - lo)) : R) count).ceil hi) := rfl
      rw [extendTime]
      split
      case isTrue hstable =>
        rw [hstable.1, hstable.2] at hround
        exact (Function.iterate_fixed hround _).symm
      case isFalse => rw [ih, Function.iterate_succ_apply, hround]

/-! ## The rounds -/

/-- An interval whose rounds stay in the calendar, with a bound for its ends. -/
structure CanSettle (R : Type) [Scalar R] (count : Nat) (bound : Int) (d : Int × Int) : Prop where
  /-- There is something to extend. -/
  lt : d.1 < d.2
  /-- The bound is not tighter than that of the calendar. -/
  calendarBound_le : calendarBound ≤ bound
  /-- Ten weeks more are exact numbers of milliseconds. -/
  bound_le : bound + 10 * weekLength ≤ 2 ^ 53
  /-- The lower end is not too far away. -/
  abs_fst_le : |d.1| ≤ bound
  /-- The upper end is not too far away. -/
  abs_snd_le : |d.2| ≤ bound
  /-- The rounds stay in the calendar. -/
  stays : StaysInCalendar R count d

namespace CanSettle

variable {bound : Int} {j k : ℕ}

variable (hq : IsQuotient count (targetLength R count)) (h : CanSettle R count bound d)

include hq h

/-- The rounds go beyond the bound by one week at most with each of them. -/
theorem iterate_bounds (hk : k ≤ 10) :
    ((extendRound R count)^[k] d).1 < ((extendRound R count)^[k] d).2 ∧
      |((extendRound R count)^[k] d).1| ≤ bound + k * weekLength ∧
      |((extendRound R count)^[k] d).2| ≤ bound + k * weekLength := by
  have hweek : (0 : Int) ≤ weekLength := by decide
  induction k with
  | zero => simpa using ⟨h.lt, h.abs_fst_le, h.abs_snd_le⟩
  | succ k ih =>
      obtain ⟨hlt, hfst, hsnd⟩ := ih (by omega)
      have hext := h.stays k (show k < 10 by omega)
      rw [Function.iterate_succ_apply', extendRound, extendBy]
      generalize (extendRound R count)^[k] d = e at hlt hfst hsnd hext ⊢
      have hle : bound + k * weekLength ≤ 2 ^ 53 := by
        have hten : (k : Int) * weekLength ≤ 10 * weekLength :=
          mul_le_mul_of_nonneg_right (by omega) hweek
        linarith [h.bound_le]
      have hround := isRound_of_abs_le hlt (hfst.trans hle) (hsnd.trans hle) hext
      obtain ⟨hlower, hupper⟩ := extend_outwards (hround.isForward hq) hext
      have hcalendar : calendarBound ≤ bound + k * weekLength :=
        h.calendarBound_le.trans (le_add_of_nonneg_right (mul_nonneg (Nat.cast_nonneg k) hweek))
      push_cast
      rw [add_one_mul, ← add_assoc]
      exact ⟨hlower.trans_lt (hlt.trans_le hupper),
        abs_extend_le (isRegular_stepOf _ _) hcalendar hext hlt.le hfst hsnd⟩

theorem iterate_abs_le (hk : k ≤ 10) :
    |((extendRound R count)^[k] d).1| ≤ bound + 10 * weekLength ∧
      |((extendRound R count)^[k] d).2| ≤ bound + 10 * weekLength := by
  obtain ⟨-, hfst, hsnd⟩ := h.iterate_bounds hq hk
  have hten : (k : Int) * weekLength ≤ 10 * weekLength :=
    mul_le_mul_of_nonneg_right (by omega) (by decide)
  exact ⟨hfst.trans (by omega), hsnd.trans (by omega)⟩

theorem isRound_iterate (hk : k < 10) :
    IsRound (targetLength R count) ((extendRound R count)^[k] d) := by
  obtain ⟨hfst, hsnd⟩ := h.iterate_abs_le hq hk.le
  exact isRound_of_abs_le (h.iterate_bounds hq hk.le).1 (hfst.trans h.bound_le)
    (hsnd.trans h.bound_le) (h.stays k hk)

/-- The rounds go outwards. -/
theorem iterate_outwards (hjk : j ≤ k) (hk : k ≤ 10) :
    ((extendRound R count)^[k] d).1 ≤ ((extendRound R count)^[j] d).1 ∧
      ((extendRound R count)^[j] d).2 ≤ ((extendRound R count)^[k] d).2 := by
  induction k, hjk using Nat.le_induction with
  | base => exact ⟨le_rfl, le_rfl⟩
  | succ k hjk ih =>
      obtain ⟨hlower, hupper⟩ := ih (by omega)
      have hround := h.isRound_iterate hq (show k < 10 by omega)
      obtain ⟨hlower', hupper'⟩ := extend_outwards (hround.isForward hq) hround.canExtend
      rw [Function.iterate_succ_apply', extendRound]
      exact ⟨hlower'.trans hlower, hupper.trans hupper'⟩

/-- What ten rounds leave alone, one round leaves alone. -/
theorem isFixedPt_of_iterate (hten : (extendRound R count)^[10] d = d) :
    IsFixedPt (extendRound R count) d := by
  obtain ⟨hlower, hupper⟩ := h.iterate_outwards hq (show 0 ≤ 1 by omega) (by omega)
  obtain ⟨hlower', hupper'⟩ := h.iterate_outwards hq (show 1 ≤ 10 by omega) le_rfl
  rw [hten] at hlower' hupper'
  exact Prod.ext (hlower.antisymm hlower') (hupper'.antisymm hupper)

/-- With two parts or more nothing changes after ten rounds. -/
theorem isFixedPt_iterate (hcount : 2 ≤ count) :
    IsFixedPt (extendRound R count) ((extendRound R count)^[10] d) := by
  have hnext (k : ℕ) : (extendRound R count)^[k + 1] d =
      extendBy (targetLength R count) ((extendRound R count)^[k] d) :=
    Function.iterate_succ_apply' _ _ _
  obtain ⟨k, hk, hsame⟩ : ∃ k < 9, stepOf (targetLength R count) ((extendRound R count)^[k] d) =
      stepOf (targetLength R count) ((extendRound R count)^[k + 1] d) := by
    by_contra hnone
    have hchanging : IsChanging (targetLength R count) fun k ↦ (extendRound R count)^[k] d :=
      ⟨hnext, fun hk ↦ h.isRound_iterate hq hk, fun hk heq ↦ hnone ⟨_, hk, heq⟩⟩
    exact hchanging.false hq (by exact_mod_cast hcount)
  -- the ends are boundaries of the step already
  have hfixed : IsFixedPt (extendRound R count) ((extendRound R count)^[k + 1] d) := by
    have hround := h.isRound_iterate hq (show k < 10 by omega)
    obtain ⟨i, j, hends⟩ := exists_extend_eq (hround.isForward hq) hround.canExtend
    obtain ⟨hfst, hsnd⟩ := h.iterate_abs_le hq (show k + 1 ≤ 10 by omega)
    have hbound : bound + 10 * weekLength ≤ 2 ^ 54 := h.bound_le.trans (by decide)
    change (stepOf _ _).extend _ = _
    rw [hnext, extendBy, hends] at hfst hsnd
    rw [← hsame, hnext, extendBy, hends, extend_boundary (isRegular_stepOf _ _) (hfst.trans hbound)
      (hsnd.trans hbound)]
  have hrest : (extendRound R count)^[10] d = (extendRound R count)^[k + 1] d := by
    rw [show 10 = 9 - k + (k + 1) by omega, Function.iterate_add_apply]
    exact Function.iterate_fixed hfixed _
  rwa [hrest]

end CanSettle

/-! ## A single part -/

/-- Two steps are longer than the limit of the step, even if the limit is not known exactly. -/
theorem limit_lt_two_steps {s : TimeStep} (hs : s ∈ ladder) (j : Int) :
    s.limit < s.boundary (j + 2) - s.boundary j ∧
      (2 ^ 47 ≤ s.limit → s.limit + 64 < s.boundary (j + 2) - s.boundary j) := by
  cases hfixed : s.isFixed with
  | true =>
      obtain ⟨hpos, hweek⟩ := limit_of_isFixed s hs hfixed
      rw [boundary_of_isFixed hfixed, boundary_of_isFixed hfixed, add_mul]
      simp only [weekLength, day, hour, minute, second] at hweek
      omega
  | false =>
      rcases months_of_not_isFixed s hs hfixed with rfl | rfl | ⟨y, hy, rfl⟩
      · have hmonths : 2 * (28 * msPerDay) ≤ monthStart (j * 1 + 2 * 1) - monthStart (j * 1) :=
          (monthStart_sub_bounds (j * 1) 2).1
        rw [boundary, boundary, add_mul]
        simp only [limit, msPerDay, day, hour, minute, second] at hmonths ⊢
        omega
      · have hmonths : 6 * (28 * msPerDay) ≤ monthStart (j * 3 + 2 * 3) - monthStart (j * 3) :=
          (monthStart_sub_bounds (j * 3) 6).1
        rw [boundary, boundary, add_mul]
        simp only [limit, msPerDay, day, hour, minute, second] at hmonths ⊢
        omega
      · have hpos := pos_of_mem_roundYears hy
        have hyears := (yearStart_sub_bounds (p := j * y) (n := 2 * y) (by omega)).1
        rw [boundary_months_year, boundary_months_year, limit_months_year hpos, add_zero, add_zero,
          add_mul j 2 y]
        simp only [msPerDay, day, hour, minute, second] at hyears ⊢
        omega

/-- What a single part leaves alone is one step long. -/
theorem exists_one_step {q : Int → Int} (hq : IsQuotient 1 q) (h : IsRound q d)
    (hfixed : extendBy q d = d) :
    ∃ k, d = ((stepOf q d).boundary k, (stepOf q d).boundary (k + 1)) := by
  have hforward := h.isForward hq
  have hmono := boundary_strictMono hforward
  obtain ⟨j, k, hends⟩ := exists_extend_eq hforward h.canExtend
  have hd : d = ((stepOf q d).boundary j, (stepOf q d).boundary k) := hfixed.symm.trans hends
  have hwidth := hq.lt_of_le (by linarith [h.lt]) h.width_le (h.le_limit hq)
  obtain ⟨htwo, htwo'⟩ := limit_lt_two_steps (h.stepOf_mem hq) j
  have hle := h.width_le
  have hlt := h.lt
  generalize stepOf q d = s at *
  subst hd
  have hjk : j < k := hmono.lt_iff_lt.mp hlt
  rcases (show k = j + 1 ∨ j + 2 ≤ k by omega) with rfl | hlong
  · exact ⟨j, rfl⟩
  · -- the width is known exactly unless it is very long
    have hlonger := hmono.monotone hlong
    dsimp only at hwidth hle
    omega

theorem isFixedPt_of_isOneTimeStep (h : IsOneTimeStep R count d) (hfst : |d.1| ≤ 2 ^ 54)
    (hsnd : |d.2| ≤ 2 ^ 54) : IsFixedPt (extendRound R count) d := by
  obtain ⟨k, hk⟩ := h
  have hstep := isRegular_stepOf (targetLength R count) d
  generalize hq : stepOf (targetLength R count) d = step at hk hstep
  change (stepOf (targetLength R count) d).extend d = d
  rw [hq]
  subst hk
  exact extend_boundary hstep hfst hsnd

/-! ## Nice domains -/

/-- The lower end never goes up, not even where the calendar is left, and down by a week at most
with each round once it has left the calendar. -/
theorem iterate_fst_bounds {k : ℕ} (hk : k ≤ 10) (hd : |d.1| ≤ calendarBound) :
    -(calendarBound + k * weekLength) ≤ ((extendRound R count)^[k] d).1 ∧
      ((extendRound R count)^[k] d).1 ≤ d.1 := by
  obtain ⟨hlower, hupper⟩ := abs_le.mp hd
  induction k with
  | zero => simpa using hlower
  | succ k ih =>
      obtain ⟨hfst, hle⟩ := ih (by omega)
      have hweek : (0 : Int) ≤ k * weekLength := mul_nonneg (Nat.cast_nonneg k) (by decide)
      have hten : (k : Int) * weekLength ≤ 10 * weekLength :=
        mul_le_mul_of_nonneg_right (by omega) (by decide)
      have hexact : calendarBound + 10 * weekLength ≤ 2 ^ 53 := by decide
      rw [Function.iterate_succ_apply']
      push_cast
      rw [add_one_mul, ← add_assoc]
      exact (floor_bounds (isRegular_stepOf _ _) (le_add_of_nonneg_right hweek) (by omega) hfst
        (by omega)).imp_right fun h ↦ h.trans hle

variable [LawfulQuotients R]

omit [LawfulQuotients R] in
theorem ofInt_injective [LawfulIntegers R] {a b : Int} (ha : |a| ≤ 2 ^ 53) (hb : |b| ≤ 2 ^ 53)
    (h : (Scalar.ofInt a : R) = Scalar.ofInt b) : a = b := by
  rw [← LawfulIntegers.toInt64_ofInt (R := R) ha, h, LawfulIntegers.toInt64_ofInt hb]

theorem isQuotient_targetLength (hcount : 1 ≤ count) :
    IsQuotient count (targetLength R count) := by
  have hquotient : IsQuotient count
      fun a ↦ Scalar.toInt64 (Scalar.ofInt a / Scalar.ofNat count : R) :=
    LawfulQuotients.isQuotient hcount
  refine hquotient.congr fun a ha ha' ↦ ?_
  have hfits : FitsInt64 a := by
    simp only [FitsInt64, minInt64, maxInt64]
    omega
  rw [targetLength, max_eq_left hcount, wrapInt64_of_fitsInt64 hfits]

/-- Between numbers the rounds are those between integers. -/
theorem niceTimeDomain_ofInt (hlt : d.1 < d.2) (hfst : |d.1| ≤ 2 ^ 53) (hsnd : |d.2| ≤ 2 ^ 53) :
    niceTimeDomain (Scalar.ofInt d.1 : R) (Scalar.ofInt d.2) count =
      (Scalar.ofInt ((extendRound R count)^[10] d).1,
        Scalar.ofInt ((extendRound R count)^[10] d).2) := by
  have horder := mt (LawfulIntegers.ofInt_le_ofInt_iff (R := R) hsnd hfst).mp (not_le.mpr hlt)
  simp only [niceTimeDomain, LawfulIntegers.isFinite_ofInt hfst, LawfulIntegers.isFinite_ofInt hsnd,
    LawfulIntegers.toInt64_ofInt hfst, LawfulIntegers.toInt64_ofInt hsnd, horder, Bool.not_true,
    Bool.or_false, decide_false, Bool.false_eq_true, if_false, extendTime_eq_iterate]
  rfl

omit [LawfulQuotients R] in
/-- Times of the calendar are small. -/
theorem abs_le_of_ofTimestamp? {t : Int} (h : (Moment.ofTimestamp? t).isSome) :
    |t| ≤ calendarBound := by
  refine abs_le_of_isSupportedMonth ?_
  have hmonth : (monthIndex? t).isSome := by simpa [monthIndex?] using h
  rw [monthIndex?_eq] at hmonth
  split at hmonth
  case isTrue hyear => exact hyear
  case isFalse => exact absurd hmonth (by decide)

/-- The nice domain of an interval of the calendar never begins later.  As long as the rounds stay
in the calendar it contains the interval, and it is its own nice domain with two parts or more, and
with a single part only if it is one step long. -/
theorem niceTimeDomain_contains_and_settles {lo hi : Int} (hlo : (Moment.ofTimestamp? lo).isSome)
    (hhi : (Moment.ofTimestamp? hi).isSome) (hlt : lo < hi) (hcount : 1 ≤ count) :
    ∃ d : Int × Int,
      niceTimeDomain (Scalar.ofInt lo : R) (Scalar.ofInt hi) count =
        (Scalar.ofInt d.1, Scalar.ofInt d.2) ∧
      d.1 ≤ lo ∧
      (StaysInCalendar R count (lo, hi) →
        hi ≤ d.2 ∧
        (2 ≤ count ∨ IsOneTimeStep R count d →
          niceTimeDomain (Scalar.ofInt d.1 : R) (Scalar.ofInt d.2) count =
            (Scalar.ofInt d.1, Scalar.ofInt d.2)) ∧
        (StaysInCalendar R count d →
          niceTimeDomain (Scalar.ofInt d.1 : R) (Scalar.ofInt d.2) count =
            (Scalar.ofInt d.1, Scalar.ofInt d.2) →
          2 ≤ count ∨ IsOneTimeStep R count d)) := by
  have hq : IsQuotient count (targetLength R count) := isQuotient_targetLength hcount
  have hlo' := abs_le_of_ofTimestamp? hlo
  have hhi' := abs_le_of_ofTimestamp? hhi
  have hcalendar : calendarBound ≤ 2 ^ 53 := by decide
  refine ⟨(extendRound R count)^[10] (lo, hi), niceTimeDomain_ofInt (d := (lo, hi)) hlt
    (hlo'.trans hcalendar) (hhi'.trans hcalendar), (iterate_fst_bounds le_rfl hlo').2, fun hstays ↦ ?_⟩
  have hsettle : CanSettle R count calendarBound (lo, hi) :=
    ⟨hlt, le_rfl, by decide, hlo', hhi', hstays⟩
  have hout := hsettle.iterate_outwards hq (Nat.zero_le 10) le_rfl
  obtain ⟨hwidth, -, -⟩ := hsettle.iterate_bounds hq le_rfl
  obtain ⟨hfst, hsnd⟩ := hsettle.iterate_abs_le hq le_rfl
  have hfixed := hsettle.isFixedPt_iterate hq
  generalize (extendRound R count)^[10] (lo, hi) = d at *
  have hexact : calendarBound + 10 * weekLength ≤ 2 ^ 53 := by decide
  rw [niceTimeDomain_ofInt hwidth (hfst.trans hexact) (hsnd.trans hexact)]
  refine ⟨hout.2, fun hor ↦ ?_, fun hstays' heq ↦ ?_⟩
  · have hfixed' : IsFixedPt (extendRound R count) d :=
      hor.elim hfixed fun hone ↦ isFixedPt_of_isOneTimeStep hone
        (hfst.trans (by decide)) (hsnd.trans (by decide))
    rw [Function.iterate_fixed hfixed']
  · have hsettle' : CanSettle R count (calendarBound + 10 * weekLength) d :=
      ⟨hwidth, by decide, by decide, hfst, hsnd, hstays'⟩
    obtain ⟨hfst', hsnd'⟩ := hsettle'.iterate_abs_le hq le_rfl
    have hexact' : calendarBound + 10 * weekLength + 10 * weekLength ≤ 2 ^ 53 := by decide
    have hten : (extendRound R count)^[10] d = d := by
      obtain ⟨heq₁, heq₂⟩ := Prod.mk.inj heq
      exact Prod.ext
        (ofInt_injective (R := R) (hfst'.trans hexact') (hfst.trans hexact) heq₁)
        (ofInt_injective (R := R) (hsnd'.trans hexact') (hsnd.trans hexact) heq₂)
    rcases Nat.lt_or_ge count 2 with hone | htwo
    · obtain rfl : count = 1 := by omega
      exact .inr (exists_one_step hq (hsettle'.isRound_iterate hq (show 0 < 10 by omega))
        (hsettle'.isFixedPt_of_iterate hq hten))
    · exact .inl htwo

/-- From the days between 2020-01-15 and 2020-06-10 the rounds go to whole months and stay there. -/
theorem niceTimeDomain_contains_and_settles_months :
    ∃ d : Int × Int,
      niceTimeDomain (Scalar.ofInt 1579046400000 : Float) (Scalar.ofInt 1591747200000) 5 =
        (Scalar.ofInt d.1, Scalar.ofInt d.2) ∧
      d.1 ≤ 1579046400000 ∧ 1591747200000 ≤ d.2 ∧
      niceTimeDomain (Scalar.ofInt d.1 : Float) (Scalar.ofInt d.2) 5 =
        (Scalar.ofInt d.1, Scalar.ofInt d.2) := by
  obtain ⟨d, heq, hlower, hstays⟩ := niceTimeDomain_contains_and_settles (R := Float)
    (show (Moment.ofTimestamp? 1579046400000).isSome by decide +kernel)
    (show (Moment.ofTimestamp? 1591747200000).isSome by decide +kernel) (by decide)
    (show 1 ≤ 5 by decide)
  obtain ⟨hupper, hfixed, -⟩ := hstays (by decide +kernel)
  exact ⟨d, heq, hlower, hupper, hfixed (.inl (by decide))⟩

/-- In the last year of the calendar the upper end of an interval goes down by months.  Around the
beginning of 1970 an interval without parts is still extended after the ten rounds. -/
theorem not_forall_niceTimeDomain :
    (¬∀ (lo hi : Int) (count : Nat), (Moment.ofTimestamp? lo).isSome →
      (Moment.ofTimestamp? hi).isSome → lo < hi → 1 ≤ count →
      (Scalar.ofInt hi : Float) ≤
        (niceTimeDomain (Scalar.ofInt lo : Float) (Scalar.ofInt hi) count).2) ∧
    ¬∀ (lo hi : Int) (count : Nat) (d : Float × Float), (Moment.ofTimestamp? lo).isSome →
      (Moment.ofTimestamp? hi).isSome → lo < hi → 1 ≤ count →
      niceTimeDomain (Scalar.ofInt lo) (Scalar.ofInt hi) count = d →
      niceTimeDomain d.1 d.2 count = d := by
  constructor
  · intro h
    have hend := h 8209934064000000 8210249596800000 5 (by decide +kernel) (by decide +kernel)
      (by decide) (by decide)
    revert hend
    decide +kernel
  · intro h
    have hone : niceTimeDomain (Scalar.ofInt (-1) : Float) (Scalar.ofInt 1) 1 =
      (Scalar.ofInt (-5000), Scalar.ofInt 5000) := by decide +kernel
    have htwo := h (-1) 1 1 _ (by decide +kernel) (by decide +kernel) (by decide) le_rfl hone
    revert htwo
    decide +kernel

end Charting
