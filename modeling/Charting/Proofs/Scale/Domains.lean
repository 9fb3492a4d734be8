import Charting.Proofs.Scale.DiscreteDomains
import Charting.Proofs.Scale.NiceDomains
import Charting.Proofs.Success
import Charting.Scale.Synthesis

/-!
# Continuous domains

The domain of a linear scale or of a scale of square roots goes from its lower to its upper end,
contains zero if it is meant to, and contains every number that is shown, but for noise: a round of
`niceDomain` may take off a billionth of its step at either end (`synthesize_bounds`).
-/

namespace Charting

variable {count : Nat}

/-! ## What widening keeps -/

/-- An interval that is left alone or widened, but for an error at either end. -/
structure Covers (error : ℚ) (before after : ℚ × ℚ) : Prop where
  /-- The ends stay in order. -/
  fst_le_snd : before.1 ≤ before.2 → after.1 ≤ after.2
  /-- Zero is not lost, not even by an error. -/
  zero_mem : before.1 ≤ 0 ∧ 0 ≤ before.2 → after.1 ≤ 0 ∧ 0 ≤ after.2
  /-- The lower end does not go up. -/
  fst_le : after.1 ≤ before.1 + error
  /-- The upper end does not go down. -/
  le_snd : before.2 - error ≤ after.2

namespace Covers

variable {error error' : ℚ} {d d' d'' : ℚ × ℚ}

theorem refl (d : ℚ × ℚ) : Covers 0 d d := ⟨id, id, by linarith, by linarith⟩

theorem trans (h : Covers error d d') (h' : Covers error' d' d'') :
    Covers (error + error') d d'' where
  fst_le_snd hle := h'.fst_le_snd (h.fst_le_snd hle)
  zero_mem hzero := h'.zero_mem (h.zero_mem hzero)
  fst_le := by linarith [h.fst_le, h'.fst_le]
  le_snd := by linarith [h.le_snd, h'.le_snd]

end Covers

section Rounding

variable {step : NiceStep ℚ} (hstep : 0 < step.value) (x : ℚ)

include hstep

theorem NiceStep.floor_le : step.floor x ≤ x + noise * step.value := by
  have h := mul_le_mul_of_nonneg_right (snap_false_le (x / step.value)) hstep.le
  rwa [← NiceStep.floor_eq, add_mul, div_mul_cancel₀ _ hstep.ne'] at h

theorem NiceStep.le_ceil : x - noise * step.value ≤ step.ceil x := by
  have h := mul_le_mul_of_nonneg_right (le_snap_true (x / step.value)) hstep.le
  rwa [← NiceStep.ceil_eq, sub_mul, div_mul_cancel₀ _ hstep.ne'] at h

variable {x}

theorem NiceStep.floor_nonpos (hx : x ≤ 0) : step.floor x ≤ 0 := by
  rw [NiceStep.floor_eq]
  have hquot : x / step.value ≤ (0 : ℤ) := by
    push_cast
    exact div_nonpos_of_nonpos_of_nonneg hx hstep.le
  have hsnap := snap_le_of_le false hquot
  push_cast at hsnap
  exact mul_nonpos_of_nonpos_of_nonneg hsnap hstep.le

theorem NiceStep.ceil_nonneg (hx : 0 ≤ x) : 0 ≤ step.ceil x := by
  rw [NiceStep.ceil_eq]
  have hquot : (0 : ℤ) ≤ x / step.value := by
    push_cast
    exact div_nonneg hx hstep.le
  have hsnap := le_snap_of_le true hquot
  push_cast at hsnap
  exact mul_nonneg hsnap hstep.le

end Rounding

/-- A round takes off no more than a billionth of its step. -/
theorem covers_round {lo hi : ℚ} {step : NiceStep ℚ}
    (hstep : NiceStep.near? ((hi - lo) / (intervals count : ℚ)) = some step) :
    Covers (noise * step.value) (lo, hi) (step.floor lo, step.ceil hi) := by
  have hnear := isNear_of_near? hstep
  have hv := hnear.step_pos
  have hlo := NiceStep.floor_le hv lo
  have hhi := NiceStep.le_ceil hv hi
  refine ⟨fun _ ↦ ?_, fun hzero ↦ ⟨NiceStep.floor_nonpos hv hzero.1, NiceStep.ceil_nonneg hv hzero.2⟩,
    hlo, hhi⟩
  -- The interval is at least seven tenths of a step long.
  have hc : (1 : ℚ) ≤ intervals count := one_le_intervals count
  have hlength := (le_div_iff₀ (by linarith)).mp hnear.bounds.1
  have hnoise := mul_lt_mul_of_pos_right noise_lt hv
  dsimp only
  nlinarith

/-! ## All rounds -/

/-- The steps of the rounds of `extendNice`. -/
def extendSteps (count : Nat) : (fuel : Nat) → ℚ → ℚ → List (NiceStep ℚ)
  | 0, _, _ => []
  | fuel + 1, lo, hi =>
    match NiceStep.near? ((hi - lo) / intervals count) with
    | none => []
    | some step =>
      let lo' := step.floor lo
      let hi' := step.ceil hi
      if lo' == lo && hi' == hi then [step] else step :: extendSteps count fuel lo' hi'

/-- The steps of the rounds of `niceDomain`. -/
def niceSteps (min max : ℚ) (count : Nat) : List (NiceStep ℚ) :=
  if max ≤ min then [] else extendSteps count niceRounds min max

/-- A billionth of the steps of all rounds. -/
def niceError (min max : ℚ) (count : Nat) : ℚ :=
  1e-9 * ((niceSteps min max count).map NiceStep.value).sum

theorem covers_extendNice (fuel : Nat) (lo hi : ℚ) :
    Covers (noise * ((extendSteps count fuel lo hi).map NiceStep.value).sum) (lo, hi)
      (extendNice count fuel lo hi) := by
  induction fuel generalizing lo hi with
  | zero => simpa [extendSteps, extendNice] using Covers.refl (lo, hi)
  | succ fuel ih =>
      rw [extendNice, extendSteps]
      cases hstep : NiceStep.near? ((hi - lo) / (intervals count : ℚ)) with
      | none => simpa using Covers.refl (lo, hi)
      | some step =>
          have hround := covers_round hstep
          dsimp only
          split
          case isTrue hstable =>
            simp only [Bool.and_eq_true, beq_iff_eq] at hstable
            rw [hstable.1, hstable.2] at hround
            simpa using hround
          case isFalse =>
            rw [List.map_cons, List.sum_cons, mul_add]
            exact hround.trans (ih _ _)

theorem covers_niceDomain (min max : ℚ) :
    Covers (niceError min max count) (min, max) (niceDomain min max count) := by
  rw [niceError, niceSteps, niceDomain]
  rcases le_or_gt max min with hle | hlt
  · simpa [hle, Scalar.isFinite] using Covers.refl (min, max)
  · rw [if_neg (not_le.mpr hlt), if_neg (by simpa [Scalar.isFinite] using hlt)]
    exact covers_extendNice niceRounds min max

/-! ## The domain of the values -/

namespace Exact

theorem min_eq (a b : ℚ) : Scalar.min a b = min a b := (min_comm a b).trans (min_def b a) |>.symm

end Exact

theorem foldl_bounds (xs : List ℚ) (lo hi : ℚ) :
    (xs.foldl Scalar.min lo ≤ lo ∧ hi ≤ xs.foldl Scalar.max hi) ∧
      ∀ x ∈ xs, xs.foldl Scalar.min lo ≤ x ∧ x ≤ xs.foldl Scalar.max hi := by
  induction xs generalizing lo hi with
  | nil => exact ⟨⟨le_rfl, le_rfl⟩, by simp⟩
  | cons y xs ih =>
      obtain ⟨⟨hlo, hhi⟩, hmem⟩ := ih (Scalar.min lo y) (Scalar.max hi y)
      obtain ⟨hlo', hy⟩ := le_min_iff.mp (hlo.trans_eq (Exact.min_eq lo y))
      obtain ⟨hhi', hy'⟩ := max_le_iff.mp ((Exact.max_eq hi y).symm.trans_le hhi)
      exact ⟨⟨hlo', hhi'⟩, List.forall_mem_cons.mpr ⟨⟨hy, hy'⟩, hmem⟩⟩

namespace ScaleRequest

variable {req : ScaleRequest ℚ} {kind : ScaleKind} {values : List (Value ℚ)} {spec : ScaleSpec ℚ}
  {sort : Option (SortOrder ℚ)} {config : Config ℚ} {scale : Scale ℚ}

theorem minMax?_bounds {xs : List ℚ} {bounds : ℚ × ℚ} (h : minMax? xs = some bounds) :
    bounds.1 ≤ bounds.2 ∧ ∀ x ∈ xs, bounds.1 ≤ x ∧ x ≤ bounds.2 := by
  cases xs with
  | nil => cases h
  | cons x xs =>
      obtain rfl := Option.some.inj h
      obtain ⟨⟨hlo, hhi⟩, hmem⟩ := foldl_bounds xs x x
      exact ⟨hlo.trans hhi, List.forall_mem_cons.mpr ⟨⟨hlo, hhi⟩, hmem⟩⟩

/-- The ends are in order, and without given ones the readings lie between them. -/
theorem rawDomain_bounds {ends : Option (Value ℚ × Value ℚ)} {domain : ℚ × ℚ}
    (h : req.rawDomain kind ends values = .ok domain) :
    domain.1 ≤ domain.2 ∧ (ends = none → ∀ v ∈ values, ∀ x,
      readOnScale? req.type kind v = some x → domain.1 ≤ x ∧ x ≤ domain.2) := by
  unfold rawDomain at h
  cases ends with
  | none =>
      dsimp only at h
      split at h
      case h_1 bounds hbounds =>
        obtain rfl := Except.ok.inj h
        obtain ⟨hle, hmem⟩ := minMax?_bounds hbounds
        exact ⟨hle, fun _ v hv x hx ↦ hmem x (List.mem_filterMap.mpr ⟨v, hv, hx⟩)⟩
      case h_2 => cases h
  | some ends =>
      dsimp only at h
      split at h
      case h_1 lo hi _ _ =>
        split at h
        case isTrue => cases h
        case isFalse hle =>
          obtain rfl := Except.ok.inj h
          exact ⟨not_lt.mp hle, by simp⟩
      case h_2 => cases h

theorem givenEnds_eq_none {ends : Option (Value ℚ × Value ℚ)} (hspec : spec.domain = none)
    (h : req.givenEnds spec.domain = .ok ends) : ends = none := by
  rw [hspec] at h
  exact (Except.ok.inj h).symm

/-- The interval is extended to zero. -/
theorem covers_withZero (domain : ℚ × ℚ) : Covers 0 domain (withZero domain) := by
  rw [withZero, Exact.min_eq, Exact.max_eq, Exact.zero_eq]
  refine ⟨fun _ ↦ ?_, fun _ ↦ ⟨min_le_right _ _, le_max_right _ _⟩, ?_, ?_⟩
  · exact (min_le_right _ _).trans (le_max_right _ _)
  · rw [add_zero]
    exact min_le_left _ _
  · rw [sub_zero]
    exact le_max_left _ _

theorem zero_mem_withZero (domain : ℚ × ℚ) : (withZero domain).1 ≤ 0 ∧ 0 ≤ (withZero domain).2 := by
  rw [withZero, Exact.min_eq, Exact.max_eq, Exact.zero_eq]
  exact ⟨min_le_right _ _, le_max_right _ _⟩

theorem continuousScale_ok (h : req.continuousScale kind values spec config = .ok scale) :
    ∃ ends raw, req.givenEnds spec.domain = .ok ends ∧ req.rawDomain kind ends values = .ok raw ∧
      ∃ range, req.continuousRange spec.range config = .ok range ∧
        let zero := req.includesZero kind spec
        let plain := if zero then withZero raw else raw
        let nice := req.isNice spec zero
        let domain := if nice then niceBounds kind plain config.tickCount else plain
        scale = ⟨req.channel, req.type, kind, .continuous domain.1 domain.2, range, zero, nice,
          0.0, 0.0⟩ := by
  obtain ⟨ends, hends, h⟩ := bind_ok_iff.mp h
  obtain ⟨raw, hraw, h⟩ := bind_ok_iff.mp h
  obtain ⟨range, hrange, h⟩ := bind_ok_iff.mp h
  exact ⟨ends, raw, hends, hraw, range, hrange, (Except.ok.inj h).symm⟩

theorem domain_of_discreteScale (h : req.discreteScale kind values spec sort config = .ok scale) :
    ∃ vs, scale.domain = .discrete vs :=
  ⟨_, discreteScale_ok h⟩

/-- What is extended to zero and then to round values covers what it was. -/
theorem covers_niceBounds (hkind : kind ≠ .time) (zero nice : Bool) (raw : ℚ × ℚ) (count : Nat) :
    let plain := if zero then withZero raw else raw
    let domain := if nice then niceBounds kind plain count else plain
    Covers (if nice then niceError plain.1 plain.2 count else 0) raw domain ∧
      (zero = true → domain.1 ≤ 0 ∧ 0 ≤ domain.2) := by
  intro plain domain
  have hplain : Covers 0 raw plain := by
    unfold plain
    split
    · exact covers_withZero raw
    · exact .refl raw
  have hdomain : Covers (if nice then niceError plain.1 plain.2 count else 0) plain domain := by
    unfold domain
    cases nice with
    | true =>
        rw [if_pos rfl, if_pos rfl, niceBounds, if_neg hkind]
        exact covers_niceDomain plain.1 plain.2
    | false => exact .refl plain
  refine ⟨zero_add (if nice then niceError plain.1 plain.2 count else 0) ▸ hplain.trans hdomain,
    fun hzero ↦ hdomain.zero_mem ?_⟩
  unfold plain
  rw [if_pos hzero]
  exact zero_mem_withZero raw

/-- The domain of a linear scale or of a scale of square roots is in order, contains zero if this is
asked for, and contains all readings, but for a billionth of the steps of the rounds that extended
it.  The rounds start with the domain that the scale has when it is not nice. -/
theorem synthesize_bounds {lo hi : ℚ} (h : req.synthesize values spec sort config = .ok scale)
    (hkind : scale.kind = .linear ∨ scale.kind = .sqrt) (hdomain : scale.domain = .continuous lo hi) :
    ∃ lo₀ hi₀ : ℚ,
      req.synthesize values { spec with nice := some false } sort config =
        .ok { scale with domain := .continuous lo₀ hi₀, nice := false } ∧
      lo ≤ hi ∧ (scale.zero = true → lo ≤ 0 ∧ 0 ≤ hi) ∧
      (spec.domain = none → ∀ v ∈ values, ∀ x, readOnScale? req.type scale.kind v = some x →
        let e := if scale.nice then niceError lo₀ hi₀ config.tickCount else 0
        lo - e ≤ x ∧ x ≤ hi + e) := by
  obtain ⟨kind, hscaleKind, h⟩ := bind_ok_iff.mp h
  split at h
  case isFalse =>
    obtain ⟨vs, hvs⟩ := domain_of_discreteScale h
    rw [hvs] at hdomain
    cases hdomain
  case isTrue hcontinuous =>
    obtain ⟨ends, raw, hends, hraw, range, hrange, rfl⟩ := continuousScale_ok h
    have htime : kind ≠ .time := by
      rintro rfl
      rcases hkind with hkind | hkind <;> cases hkind
    obtain ⟨hcovers, hzero⟩ := covers_niceBounds htime (req.includesZero kind spec)
      (req.isNice spec (req.includesZero kind spec)) raw config.tickCount
    obtain ⟨rfl, rfl⟩ := ScaleDomain.continuous.inj hdomain
    obtain ⟨hle, hmem⟩ := rawDomain_bounds hraw
    refine ⟨(if req.includesZero kind spec = true then withZero raw else raw).1,
      (if req.includesZero kind spec = true then withZero raw else raw).2, ?_,
      hcovers.fst_le_snd hle, hzero, fun hspec v hv x hx ↦ ?_⟩
    · refine bind_ok_iff.mpr ⟨kind, hscaleKind, ?_⟩
      rw [if_pos hcontinuous]
      exact bind_ok_iff.mpr ⟨ends, hends, bind_ok_iff.mpr ⟨raw, hraw,
        bind_ok_iff.mpr ⟨range, hrange, rfl⟩⟩⟩
    · obtain ⟨hlo, hhi⟩ := hmem (givenEnds_eq_none hspec hends) v hv x hx
      have hlo' := hcovers.fst_le
      have hhi' := hcovers.le_snd
      constructor <;> linarith

theorem domain_of_extent? {lo hi : ℚ} (h : scale.extent? = some (lo, hi)) :
    scale.domain = .continuous lo hi := by
  unfold Scale.extent? at h
  split at h
  case h_1 heq =>
    obtain ⟨rfl, rfl⟩ := Prod.mk.inj (Option.some.inj h)
    exact heq
  case h_2 => cases h

/-- A vertical axis of heights. -/
def heightAxis : ScaleRequest ℚ where
  channel := .y
  field := "height"
  type := .quantitative
  quantitativeKind := none
  mark := .point
  extent := ⟨200, 100⟩

/-- Two heights. -/
def heights : List (Value ℚ) := [.number 3.2, .number 7.8]

/-- The axis goes from zero to the round number above the heights, which it starts with. -/
theorem synthesize_bounds_heights :
    ∃ scale, heightAxis.synthesize heights .auto none .standard = .ok scale ∧
      scale.zero = true ∧ scale.nice = true ∧ scale.extent? = some (0, 8) ∧
      heightAxis.synthesize heights { ScaleSpec.auto with nice := some false } none .standard =
        .ok { scale with domain := .continuous 0 7.8, nice := false } ∧
      ((0 : ℚ) ≤ 0 ∧ (0 : ℚ) ≤ 8) ∧
      ∀ v ∈ heights, ∀ x, readOnScale? .quantitative .linear v = some x →
        0 - niceError 0 7.8 5 ≤ x ∧ x ≤ 8 + niceError 0 7.8 5 := by
  have hcomputed : (heightAxis.synthesize heights .auto none .standard).toOption.map (fun s ↦
      (s.kind, s.zero, s.nice, s.extent?)) = some (.linear, true, true, some (0, 8)) := by
    decide +kernel
  have hstart : (heightAxis.synthesize heights { ScaleSpec.auto with nice := some false } none
      .standard).toOption.map (·.extent?) = some (some (0, 7.8)) := by
    decide +kernel
  obtain ⟨scale, h, hscale⟩ := exists_ok_of_map_eq_some hcomputed
  obtain ⟨hkind, hscale⟩ := Prod.mk.inj hscale
  obtain ⟨hzero, hscale⟩ := Prod.mk.inj hscale
  obtain ⟨hnice, hextent⟩ := Prod.mk.inj hscale
  obtain ⟨lo₀, hi₀, hplain, -, hcontains, hmem⟩ :=
    synthesize_bounds h (.inl hkind) (domain_of_extent? hextent)
  -- The rounds start with the domain of the axis that is not nice.
  rw [hplain] at hstart
  obtain ⟨rfl, rfl⟩ := Prod.mk.inj (Option.some.inj (Option.some.inj hstart))
  have hreadings := hmem rfl
  rw [hkind, hnice] at hreadings
  exact ⟨scale, h, hzero, hnice, hextent, hplain, hcontains hzero, hreadings⟩

end ScaleRequest

end Charting
