import Mathlib
import Charting.Numeric.Double
import Charting.Proofs.Numeric.Laws

/-!
# Laws of doubles

Doubles obey the laws of numbers.  They are compared by sign, exponent and significand
(`compare_eq`), which gives the laws of the order.  A sum of positive doubles is rounded, but never
down to zero: the significand keeps its leading digit, and the exponent does not get too small
(`isNormal_round`).
-/

namespace Charting

open Float.Model (Format UnpackedFloat)
open Float.Model.UnpackedFloat

namespace Double

/-! ## Comparison -/

/-- What doubles are compared by, if they have a value. -/
def rank? : UnpackedFloat → Option (Int ×ₗ Int ×ₗ Int)
  | .notANumber => none
  | .infinity .negative => some (toLex (-2, toLex (0, 0)))
  | .finite .negative m e _ => some (toLex (-1, toLex (-e, -(m : Int))))
  | .zero _ => some (toLex (0, toLex (0, 0)))
  | .finite .positive m e _ => some (toLex (1, toLex (e, (m : Int))))
  | .infinity .positive => some (toLex (2, toLex (0, 0)))

/-- Opposite numbers are in the opposite order. -/
theorem compare_neg_neg (a b : Int) : compare (-a) (-b) = (compare a b).swap := by
  rcases lt_trichotomy a b with h | rfl | h
  · rw [compare_lt_iff_lt.mpr h, Ordering.swap_lt, compare_gt_iff_gt]
    exact neg_lt_neg h
  · simp
  · rw [compare_gt_iff_gt.mpr h, Ordering.swap_gt, compare_lt_iff_lt]
    exact neg_lt_neg h

/-- Natural numbers are in the order of integers. -/
theorem compare_natCast (m n : Nat) : compare (m : Int) n = compare m n := by
  rcases lt_trichotomy m n with h | rfl | h
  · rw [compare_lt_iff_lt.mpr h, compare_lt_iff_lt]
    exact_mod_cast h
  · simp
  · rw [compare_gt_iff_gt.mpr h, compare_gt_iff_gt]
    exact_mod_cast h

/-- Doubles are in the order of their ranks. -/
theorem compare_eq (a b : UnpackedFloat) :
    a.compare b = (rank? a).bind fun k ↦ (rank? b).map (compare k) := by
  have hlex (x y z x' y' z' : Int) :
      compare (toLex (x, toLex (y, z))) (toLex (x', toLex (y', z'))) =
        (compare x x').then ((compare y y').then (compare z z')) := rfl
  cases a with
  | notANumber => rfl
  | infinity s => cases s <;> rcases b with (_ | _) | _ | _ | (_ | _) <;> rfl
  | zero s => rcases b with (_ | _) | _ | _ | (_ | _) <;> rfl
  | finite s m e =>
      cases b with
      | notANumber => cases s <;> rfl
      | infinity t => cases s <;> cases t <;> rfl
      | zero t => cases s <;> rfl
      | finite t m' e' =>
          cases s with
          | negative =>
              cases t with
              | negative =>
                  simp [rank?, hlex, UnpackedFloat.compare, compare_neg_neg, compare_natCast,
                    Ordering.swap_then]
              | positive => rfl
          | positive =>
              cases t with
              | negative => rfl
              | positive => simp [rank?, hlex, UnpackedFloat.compare, compare_natCast]

section Order

variable {a b : Float}

/-- One double is at most another one if its rank is. -/
theorem le_iff : a ≤ b ↔ ∃ k l, rank? a.toModel.unpack = some k ∧
    rank? b.toModel.unpack = some l ∧ k ≤ l := by
  have h : a ≤ b ↔ (a.toModel.unpack.compare b.toModel.unpack).any Ordering.isLE = true :=
    decide_eq_true_iff
  rw [h, compare_eq]
  cases rank? a.toModel.unpack with
  | none => simp
  | some k =>
      cases rank? b.toModel.unpack with
      | none => simp
      | some l => simpa [Ordering.isLE_iff_ne_gt] using compare_le_iff_le

/-- One double is less than another one if its rank is. -/
theorem lt_iff : a < b ↔ ∃ k l, rank? a.toModel.unpack = some k ∧
    rank? b.toModel.unpack = some l ∧ k < l := by
  have h : a < b ↔ (a.toModel.unpack.compare b.toModel.unpack == some .lt) = true :=
    decide_eq_true_iff
  rw [h, compare_eq]
  cases rank? a.toModel.unpack with
  | none => simp
  | some k =>
      cases rank? b.toModel.unpack with
      | none => simp
      | some l => simpa using compare_lt_iff_lt

/-- A double has a rank exactly if it has a value. -/
theorem isNaN_eq_false_iff : a.isNaN = false ↔ ∃ k, rank? a.toModel.unpack = some k := by
  change a.toModel.unpack.isNaN = false ↔ _
  rcases a.toModel.unpack with (_ | _) | _ | _ | (_ | _) <;> simp [rank?, UnpackedFloat.isNaN]

end Order

/-! ## Rounding -/

/-- Bits that are shifted out are lost. -/
theorem mantissa_shiftRight (x : ExtendedMantissa) (n : Nat) :
    (x >>> n).mantissa = x.mantissa / 2 ^ n := by
  change (Nat.repeat ExtendedMantissa.shiftRightOne n x).mantissa = _
  induction n with
  | zero => simp [Nat.repeat]
  | succ n ih =>
      rw [Nat.repeat, Nat.pow_succ, ← Nat.div_div_eq_div_mul, ← ih]
      rfl

/-- A significand is rounded to one of its neighbours. -/
theorem le_roundedMantissa (x : ExtendedMantissa) : x.mantissa ≤ x.roundedMantissa := by
  unfold ExtendedMantissa.roundedMantissa Accuracy.roundToNearestEven
  split <;> omega

/-- The exponent for a significand of fifty-three digits, as far as there is one. -/
theorem targetExponent_eq (m : Nat) (e : Int) :
    Format.binary64.targetExponent (Float.Model.totalExponent m e) =
      max (m.log2 + e - 52) (-1074) := by
  have hbits : (Format.binary64.mantissaBits : Int) = 53 := by decide
  have hleast : Format.binary64.minExponent = -1074 := by decide
  rw [Format.targetExponent, Float.Model.totalExponent, hbits, hleast]
  omega

/-- A significand that is too long is cut off, but keeps its leading digit. -/
theorem shiftToTargetExponent_bounds {m : Nat} (hm : 0 < m) {e : Int} (he : -1074 ≤ e) :
    0 < (shiftToTargetExponent .binary64 m e .exact).1.mantissa ∧
      (shiftToTargetExponent .binary64 m e .exact).1.mantissa < 2 ^ 53 ∧
      e ≤ (shiftToTargetExponent .binary64 m e .exact).2 := by
  have hdigits : (max (m.log2 + e - 52) (-1074) - e).toNat = m.log2 - 52 := by omega
  rw [shiftToTargetExponent, targetExponent_eq, shiftToExponent]
  simp only [mantissa_shiftRight, hdigits, ExtendedMantissa.ofMantissaAndAccuracy]
  refine ⟨Nat.div_pos ?_ (by positivity), ?_, by omega⟩
  · exact (Nat.pow_le_pow_right (by omega) (Nat.sub_le _ _)).trans (Nat.log2_self_le hm.ne')
  · rw [Nat.div_lt_iff_lt_mul (by positivity), ← Nat.pow_add]
    exact Nat.lt_log2_self.trans_le (Nat.pow_le_pow_right (by omega) (by omega))

/-- Positive, and within the bounds of what can be packed without getting zero. -/
def IsNormal : UnpackedFloat → Prop
  | .finite .positive m e _ => m < 2 ^ 53 ∧ -1074 ≤ e
  | .infinity .positive => True
  | _ => False

/-- Positive numbers are not rounded to zero. -/
theorem isNormal_round {m : Nat} (hm : 0 < m) {e : Int} (he : -1074 ≤ e) :
    IsNormal (UnpackedFloat.round .binary64 .positive m e) := by
  have hdecreased : ∀ t : Int, 0 < (decreaseExponent m e (max t (-1074))).1 ∧
      -1074 ≤ (decreaseExponent m e (max t (-1074))).2 := by
    intro t
    simp only [decreaseExponent, Nat.shiftLeft_eq]
    exact ⟨by positivity, by omega⟩
  rw [UnpackedFloat.round, targetExponent_eq]
  obtain ⟨hm', he'⟩ := hdecreased (m.log2 + e - 52)
  generalize decreaseExponent m e (max (m.log2 + e - 52) (-1074)) = d at hm' he'
  -- The significand is cut off, rounded, and cut off once more if it got longer by that.
  obtain ⟨hm₁, -, he₁⟩ := shiftToTargetExponent_bounds hm' he'
  obtain ⟨hm₂, hm₂', he₂⟩ := shiftToTargetExponent_bounds
    (hm₁.trans_le (le_roundedMantissa _)) (he'.trans he₁)
  simp only [roundWithAccuracy]
  rw [dif_neg hm₂.ne']
  exact ⟨hm₂', (he'.trans he₁).trans he₂⟩

/-! ## Positive doubles -/

/-- Greater than zero. -/
def IsPositive : UnpackedFloat → Prop
  | .finite .positive _ _ _ | .infinity .positive => True
  | _ => False

/-- Zero or greater. -/
theorem zero_le_iff {a : Float} :
    0.0 ≤ a ↔ IsPositive a.toModel.unpack ∨ ∃ s, a.toModel.unpack = .zero s := by
  have hzero : (0.0 : Float).toModel.unpack = .zero .positive := rfl
  rw [le_iff, hzero]
  rcases a.toModel.unpack with (_ | _) | _ | _ | (_ | _) <;>
    simp [rank?, IsPositive, Prod.Lex.toLex_le_toLex]

/-- Greater than zero. -/
theorem zero_lt_iff {a : Float} : 0.0 < a ↔ IsPositive a.toModel.unpack := by
  have hzero : (0.0 : Float).toModel.unpack = .zero .positive := rfl
  rw [lt_iff, hzero]
  rcases a.toModel.unpack with (_ | _) | _ | _ | (_ | _) <;>
    simp [rank?, IsPositive, Prod.Lex.toLex_lt_toLex]

/-- A positive sign with digits that are not all zero. -/
theorem isPositive_unpack {spec : Format} {b : BitVec spec.numBits}
    (hsign : Sign.ofBitVec (unpackSign b) = .positive) (hexponent : unpackExponent b ≠ -1#_)
    (hdigits : unpackExponent b ≠ 0#_ ∨ unpackMantissa b ≠ 0#_) :
    IsPositive (UnpackedFloat.unpack spec b) := by
  rw [UnpackedFloat.unpack, if_neg hexponent, hsign]
  by_cases he : unpackExponent b = 0#_
  · have hm := hdigits.resolve_left (not_not_intro he)
    rw [if_pos he, dif_neg hm]
    trivial
  · rw [if_neg he]
    trivial

/-- A positive sign is packed with digits that are not all zero. -/
theorem isPositive_unpack_packComponents {spec : Format} {e : BitVec spec.exponentBits}
    {m : BitVec spec.mantissaBitsWithoutImplicit} (hexponent : e ≠ -1#_)
    (hdigits : e ≠ 0#_ ∨ m ≠ 0#_) :
    IsPositive (UnpackedFloat.unpack spec (packComponents spec .positive e m)) := by
  refine isPositive_unpack ?_ ?_ ?_
  · rw [unpackSign_packComponents]
    rfl
  · rwa [unpackExponent_packComponents]
  · rwa [unpackExponent_packComponents, unpackMantissa_packComponents]

/-- What is positive and not too small stays positive when it is packed. -/
theorem isPositive_unpack_pack {x : UnpackedFloat} (h : IsNormal x) :
    IsPositive (Float.Model.pack x).unpack := by
  change IsPositive (UnpackedFloat.unpack .binary64 (UnpackedFloat.pack .binary64 x))
  rcases x with (_ | _) | _ | _ | ⟨_ | _, m, e, hm⟩
  case infinity.positive => trivial
  case finite.positive =>
    obtain ⟨hm', he⟩ := h
    have hbias : (e + (Format.binary64.exponentBias : Int) +
        (Format.binary64.mantissaBitsWithoutImplicit : Int)).toNat = (e + 1075).toNat := by
      have hexponent : (Format.binary64.exponentBias : Int) = 1023 := by decide
      have hmantissa : (Format.binary64.mantissaBitsWithoutImplicit : Int) = 52 := by decide
      rw [hexponent, hmantissa]
      omega
    simp only [UnpackedFloat.pack, hbias]
    split
    case isTrue => trivial
    case isFalse hsmall =>
      have hsmall : ¬2048 ≤ (e + 1075).toNat + 1 := hsmall
      split
      case isTrue =>
        -- The exponent is not the least one.
        have hnat : (BitVec.ofNat 11 (e + 1075).toNat).toNat = (e + 1075).toNat :=
          Nat.mod_eq_of_lt (by omega)
        refine isPositive_unpack_packComponents (fun h ↦ ?_) (.inl fun h ↦ ?_)
        · have hmax := congrArg BitVec.toNat h
          rw [hnat] at hmax
          change _ = 2047 at hmax
          omega
        · have hmin := congrArg BitVec.toNat h
          rw [hnat] at hmin
          change _ = 0 at hmin
          omega
      case isFalse hlog =>
        -- The significand has less than fifty-three digits.
        have hlog : ¬m.log2 + 1 = 53 := hlog
        have hle : m.log2 < 53 := (Nat.log2_lt hm.ne').mpr hm'
        have hlt : m < 2 ^ 52 := (Nat.log2_lt hm.ne').mp (by omega)
        refine isPositive_unpack_packComponents (by decide) (.inr fun h ↦ ?_)
        have hzero := congrArg BitVec.toNat h
        rw [BitVec.toNat_ofNat, Nat.mod_eq_of_lt hlt] at hzero
        exact hm.ne' hzero
  all_goals cases h

/-- The exponents of doubles are not too small. -/
theorem le_exponent_of_unpack {b : BitVec Format.binary64.numBits} {s : Sign} {m : Nat} {e : Int}
    {hm : 0 < m} (h : UnpackedFloat.unpack .binary64 b = .finite s m e hm) : -1074 ≤ e := by
  have hexponent : (Format.binary64.exponentBias : Int) = 1023 := by decide
  have hmantissa : (Format.binary64.mantissaBitsWithoutImplicit : Int) = 52 := by decide
  rw [UnpackedFloat.unpack, hexponent, hmantissa] at h
  split at h
  case isTrue => split at h <;> cases h
  case isFalse =>
    split at h
    case isTrue =>
      split at h
      case isTrue => cases h
      case isFalse =>
        obtain ⟨-, -, rfl⟩ := UnpackedFloat.finite.inj h
        omega
    case isFalse hne =>
      obtain ⟨-, -, rfl⟩ := UnpackedFloat.finite.inj h
      have hpos : 0 < (unpackExponent b).toNat :=
        Nat.pos_of_ne_zero fun h ↦ hne (BitVec.eq_of_toNat_eq h)
      omega

/-- A sum of positive numbers is not too small. -/
theorem isNormal_add {m n : Nat} {e f : Int} (hm : 0 < m) (hn : 0 < n) (he : -1074 ≤ e)
    (hf : -1074 ≤ f) :
    IsNormal (UnpackedFloat.add .binary64 (.finite .positive m e hm)
      (.finite .positive n f hn)) := by
  have hpos : 0 < (decreaseExponent m e (min e f)).1 := by
    simp only [decreaseExponent, Nat.shiftLeft_eq]
    positivity
  change IsNormal (UnpackedFloat.normalize .binary64
    ((decreaseExponent m e (min e f)).1 + (decreaseExponent n f (min e f)).1) (min e f) .positive)
  rw [UnpackedFloat.normalize, compare_gt_iff_gt.mpr (by omega)]
  exact isNormal_round (by omega) (le_min he hf)

/-- A sum with a positive double is positive. -/
theorem zero_lt_add {a b : Float} (ha : 0.0 ≤ a) (hb : 0.0 < b) : 0.0 < a + b := by
  have hsum : (a + b).toModel =
      .pack (UnpackedFloat.add .binary64 a.toModel.unpack b.toModel.unpack) := rfl
  have hea := @le_exponent_of_unpack a.toModel.toBits.toBitVec
  have heb := @le_exponent_of_unpack b.toModel.toBits.toBitVec
  have hpack : (Float.Model.pack b.toModel.unpack).unpack = b.toModel.unpack :=
    congrArg (UnpackedFloat.unpack .binary64) (pack_unpack_of_valid b.toModel.valid)
  have hinfinity : IsPositive (Float.Model.pack (.infinity .positive)).unpack :=
    isPositive_unpack_pack trivial
  change ∀ {s m e hm}, a.toModel.unpack = .finite s m e hm → -1074 ≤ e at hea
  change ∀ {s m e hm}, b.toModel.unpack = .finite s m e hm → -1074 ≤ e at heb
  rw [zero_le_iff] at ha
  rw [zero_lt_iff] at hb ⊢
  rw [hsum]
  generalize a.toModel.unpack = x at ha hea
  generalize b.toModel.unpack = y at hb heb hpack
  rcases y with (_ | _) | _ | _ | ⟨_ | _, n, f, hn⟩
  case infinity.positive =>
    rcases ha with ha | ⟨s, rfl⟩
    · rcases x with (_ | _) | _ | _ | ⟨_ | _, m, e, hm⟩
      case infinity.positive | finite.positive => exact hinfinity
      all_goals cases ha
    · exact hinfinity
  case finite.positive =>
    rcases ha with ha | ⟨s, rfl⟩
    · rcases x with (_ | _) | _ | _ | ⟨_ | _, m, e, hm⟩
      case infinity.positive => exact hinfinity
      case finite.positive => exact isPositive_unpack_pack (isNormal_add hm hn (hea rfl) (heb rfl))
      all_goals cases ha
    · -- The sum with zero is the number itself.
      change IsPositive (Float.Model.pack (.finite .positive n f hn)).unpack
      rw [hpack]
      trivial
  all_goals cases hb

end Double

instance : LawfulScalar Float where
  toPartialEquivBEq := inferInstanceAs (PartialEquivBEq Float)
  le_refl ha := by
    obtain ⟨k, ha⟩ := Double.isNaN_eq_false_iff.mp ha
    exact Double.le_iff.mpr ⟨k, k, ha, ha, le_refl k⟩
  le_trans hab hbc := by
    obtain ⟨k, l, ha, hb, hkl⟩ := Double.le_iff.mp hab
    obtain ⟨l', n, hb', hc, hln⟩ := Double.le_iff.mp hbc
    obtain rfl := Option.some.inj (hb.symm.trans hb')
    exact Double.le_iff.mpr ⟨k, n, ha, hc, hkl.trans hln⟩
  le_total ha hb := by
    obtain ⟨k, ha⟩ := Double.isNaN_eq_false_iff.mp ha
    obtain ⟨l, hb⟩ := Double.isNaN_eq_false_iff.mp hb
    exact (le_total k l).imp (fun h ↦ Double.le_iff.mpr ⟨k, l, ha, hb, h⟩)
      fun h ↦ Double.le_iff.mpr ⟨l, k, hb, ha, h⟩
  lt_iff_le_not_ge := by
    intro a b
    change a < b ↔ a ≤ b ∧ ¬b ≤ a
    rw [Double.lt_iff, Double.le_iff, Double.le_iff]
    constructor
    · rintro ⟨k, l, ha, hb, hkl⟩
      refine ⟨⟨k, l, ha, hb, hkl.le⟩, ?_⟩
      rintro ⟨l', k', hb', ha', hlk⟩
      obtain rfl := Option.some.inj (ha.symm.trans ha')
      obtain rfl := Option.some.inj (hb.symm.trans hb')
      exact absurd hkl hlk.not_gt
    · rintro ⟨⟨k, l, ha, hb, -⟩, hnot⟩
      exact ⟨k, l, ha, hb, lt_of_not_ge fun hlk ↦ hnot ⟨l, k, hb, ha, hlk⟩⟩
  isNaN_of_le h := by
    obtain ⟨k, l, ha, hb, -⟩ := Double.le_iff.mp h
    exact ⟨Double.isNaN_eq_false_iff.mpr ⟨k, ha⟩, Double.isNaN_eq_false_iff.mpr ⟨l, hb⟩⟩
  isNaN_zero := by decide +kernel
  add_pos := Double.zero_lt_add
  two_mul_four_pos := by decide +kernel

end Charting
