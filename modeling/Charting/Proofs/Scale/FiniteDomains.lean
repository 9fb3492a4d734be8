import Charting.Proofs.Numeric.Unbounded
import Charting.Scale.Synthesis

/-!
# Finite domains

Where arithmetic does not overflow, the domain of a scale that is made from finite numbers has
finite ends (`ScaleRequest.hasFiniteEnds_niceBounds`), and a finite number is drawn at a finite
place (`LinearScale.isFinite_map`).
-/

namespace Charting

variable {R : Type} [Scalar R]

/-- Both ends of an interval are finite. -/
def HasFiniteEnds (d : R × R) : Prop := Scalar.isFinite d.1 = true ∧ Scalar.isFinite d.2 = true

theorem HasFiniteEnds.ite {p : Prop} [Decidable p] {d e : R × R} (hd : HasFiniteEnds d)
    (he : HasFiniteEnds e) : HasFiniteEnds (if p then d else e) := by
  split
  · exact hd
  · exact he

namespace Scalar

variable {a b : R} {xs : List R}

theorem isFinite_min (ha : isFinite a = true) (hb : isFinite b = true) :
    isFinite (min a b) = true := by
  unfold min
  split_ifs <;> assumption

theorem isFinite_max (ha : isFinite a = true) (hb : isFinite b = true) :
    isFinite (max a b) = true := by
  unfold max
  split_ifs <;> assumption

/-- What keeps numbers finite keeps them so along a list. -/
theorem isFinite_foldl {f : R → R → R} (hf : ∀ {a b : R}, isFinite a = true →
    isFinite b = true → isFinite (f a b) = true) (ha : isFinite a = true)
    (hxs : ∀ x ∈ xs, isFinite x = true) : isFinite (xs.foldl f a) = true := by
  induction xs generalizing a with
  | nil => exact ha
  | cons x xs ih =>
      rw [List.forall_mem_cons] at hxs
      exact ih (hf ha hxs.1) hxs.2

end Scalar

variable [UnboundedScalar R]

/-! ## Linear maps -/

/-- Between intervals with finite ends, finite numbers have finite images. -/
theorem LinearScale.isFinite_map {domain range : R × R} (hdomain : HasFiniteEnds domain)
    (hrange : HasFiniteEnds range) {x : R} (hx : Scalar.isFinite x = true) :
    Scalar.isFinite (LinearScale.map ⟨domain, range⟩ x) = true := by
  open UnboundedScalar in
  unfold LinearScale.map
  dsimp only
  split
  · exact isFinite_mul (isFinite_ofScientific ..) (isFinite_add hrange.1 hrange.2)
  · rename_i hlength
    have hquotient := isFinite_div (isFinite_sub hx hdomain.1) (isFinite_sub hdomain.2 hdomain.1)
      (Bool.eq_false_iff.mpr hlength)
    exact isFinite_add hrange.1 (isFinite_mul hquotient (isFinite_sub hrange.2 hrange.1))

/-! ## Nice numbers -/

theorem isFinite_snap {q : R} (hq : Scalar.isFinite q = true) (up : Bool) :
    Scalar.isFinite (snap q up) = true := by
  unfold snap
  dsimp only
  split_ifs
  · exact UnboundedScalar.isFinite_round hq
  · exact UnboundedScalar.isFinite_ceil hq
  · exact UnboundedScalar.isFinite_floor hq

namespace NiceStep

/-- The factor of a step is a number other than zero. -/
structure IsProper (s : NiceStep R) : Prop where
  /-- It is finite. -/
  isFinite_factor : Scalar.isFinite s.factor = true
  /-- It is not zero. -/
  factor_ne_zero : (s.factor == 0.0) = false

variable {s : NiceStep R} {x : R}

theorem isProper_of_near? {length : R} (h : near? length = some s) : s.IsProper := by
  have hdecimal (digits : Nat) (hdigits : digits ≠ 0) (power : Int) :
      IsProper ⟨(OfScientific.ofScientific digits true 1 : R), power⟩ :=
    ⟨UnboundedScalar.isFinite_ofScientific .., UnboundedScalar.ofScientific_ne_zero _ _ hdigits⟩
  unfold near? at h
  split at h
  · cases h
  · obtain rfl := Option.some.inj h
    split_ifs <;> exact hdecimal _ (by decide) _

theorem isFinite_pow10 (n : Nat) : Scalar.isFinite (Scalar.pow10 n : R) = true :=
  UnboundedScalar.isFinite_ofScientific ..

theorem pow10_ne_zero (n : Nat) : ((Scalar.pow10 n : R) == 0.0) = false :=
  UnboundedScalar.ofScientific_ne_zero _ _ one_ne_zero

theorem IsProper.isFinite_value (hs : s.IsProper) : Scalar.isFinite s.value = true := by
  unfold value
  split_ifs
  · exact UnboundedScalar.isFinite_mul hs.isFinite_factor (isFinite_pow10 _)
  · exact UnboundedScalar.isFinite_div hs.isFinite_factor (isFinite_pow10 _) (pow10_ne_zero _)

theorem IsProper.isFinite_times (hs : s.IsProper) (hx : Scalar.isFinite x = true) :
    Scalar.isFinite (s.times x) = true := by
  unfold times
  split_ifs
  · exact UnboundedScalar.isFinite_mul hx hs.isFinite_value
  · exact UnboundedScalar.isFinite_div (UnboundedScalar.isFinite_mul hx hs.isFinite_factor)
      (isFinite_pow10 _) (pow10_ne_zero _)

theorem IsProper.isFinite_quotient (hs : s.IsProper) (hx : Scalar.isFinite x = true) :
    Scalar.isFinite (s.quotient x) = true := by
  unfold quotient
  split_ifs with hpower
  · refine UnboundedScalar.isFinite_div hx hs.isFinite_value ?_
    rw [value, if_pos hpower]
    exact UnboundedScalar.mul_ne_zero hs.isFinite_factor (isFinite_pow10 _) hs.factor_ne_zero
      (pow10_ne_zero _)
  · exact UnboundedScalar.isFinite_div (UnboundedScalar.isFinite_mul hx (isFinite_pow10 _))
      hs.isFinite_factor hs.factor_ne_zero

theorem IsProper.isFinite_floor (hs : s.IsProper) (hx : Scalar.isFinite x = true) :
    Scalar.isFinite (s.floor x) = true :=
  hs.isFinite_times (isFinite_snap (hs.isFinite_quotient hx) false)

theorem IsProper.isFinite_ceil (hs : s.IsProper) (hx : Scalar.isFinite x = true) :
    Scalar.isFinite (s.ceil x) = true :=
  hs.isFinite_times (isFinite_snap (hs.isFinite_quotient hx) true)

end NiceStep

/-- Every round of extension keeps the ends finite. -/
theorem hasFiniteEnds_extendNice (count fuel : Nat) {lo hi : R} (h : HasFiniteEnds (lo, hi)) :
    HasFiniteEnds (extendNice count fuel lo hi) := by
  induction fuel generalizing lo hi with
  | zero => exact h
  | succ fuel ih =>
      unfold extendNice
      split
      case h_1 => exact h
      case h_2 step hstep =>
        have hproper := NiceStep.isProper_of_near? hstep
        dsimp only
        split
        · exact h
        · exact ih ⟨hproper.isFinite_floor h.1, hproper.isFinite_ceil h.2⟩

namespace ScaleRequest

variable {d : R × R}

omit [UnboundedScalar R] in
/-- The least and the greatest of finite numbers are finite. -/
theorem hasFiniteEnds_of_minMax? {xs : List R} (hxs : ∀ x ∈ xs, Scalar.isFinite x = true)
    (h : minMax? xs = some d) : HasFiniteEnds d := by
  cases xs with
  | nil => cases h
  | cons x xs =>
      obtain rfl := Option.some.inj h
      rw [List.forall_mem_cons] at hxs
      exact ⟨Scalar.isFinite_foldl Scalar.isFinite_min hxs.1 hxs.2,
        Scalar.isFinite_foldl Scalar.isFinite_max hxs.1 hxs.2⟩

theorem hasFiniteEnds_withZero (h : HasFiniteEnds d) : HasFiniteEnds (withZero d) :=
  ⟨Scalar.isFinite_min h.1 (UnboundedScalar.isFinite_ofScientific ..),
    Scalar.isFinite_max h.2 (UnboundedScalar.isFinite_ofScientific ..)⟩

/-- Extending an interval to round values keeps its ends finite. -/
theorem hasFiniteEnds_niceBounds (kind : ScaleKind) (count : Nat) (h : HasFiniteEnds d) :
    HasFiniteEnds (niceBounds kind d count) := by
  unfold niceBounds niceTimeDomain niceDomain
  split_ifs
  · exact h
  · exact ⟨UnboundedScalar.isFinite_ofInt _, UnboundedScalar.isFinite_ofInt _⟩
  · exact h
  · exact hasFiniteEnds_extendNice count niceRounds h

end ScaleRequest

end Charting
