import Charting.Proofs.Numeric.Double
import Charting.Proofs.Numeric.Nearest

/-!
# Rounding to doubles

Digits that do not fit are shifted out one by one; two bits keep what is needed to round
(`IsTruncation`).  What comes out is the nearest double (`roundWithAccuracy_eq`), in the form in
which it can be packed and unpacked (`unpack_pack_ofParts`).
-/

namespace Charting

open Float.Model (Format UnpackedFloat totalExponent)
open Float.Model.UnpackedFloat

namespace Double

variable {v w : ℚ} {m : ℕ} {e : ℤ} {s : Sign}

/-! ## Shifting out digits -/

/-- How many halves the kept digits come to. -/
def halves (x : ExtendedMantissa) : ℕ := 2 * x.mantissa + x.roundBit.toNat

/-- The digits of a number have been cut off after the first binary place, and the last bit says
whether anything was lost by that. -/
structure IsTruncation (x : ExtendedMantissa) (w : ℚ) : Prop where
  /-- Nothing has been added. -/
  le : (halves x : ℚ) ≤ 2 * w
  /-- Less than a half has been lost. -/
  lt : 2 * w < halves x + 1
  /-- Whether anything has been lost. -/
  exact_iff : x.stickyBit = false ↔ (halves x : ℚ) = 2 * w

namespace IsTruncation

variable {x : ExtendedMantissa}

theorem bounds (h : IsTruncation x w) : (x.mantissa : ℚ) ≤ w ∧ w < x.mantissa + 1 := by
  have hle := h.le
  have hlt := h.lt
  have hround : (x.roundBit.toNat : ℚ) ≤ 1 := by exact_mod_cast Bool.toNat_le x.roundBit
  have hround' : (0 : ℚ) ≤ x.roundBit.toNat := Nat.cast_nonneg _
  rw [halves] at hle hlt
  push_cast at hle hlt
  constructor <;> linarith

theorem floor_eq (h : IsTruncation x w) : ⌊w⌋₊ = x.mantissa :=
  (Nat.floor_eq_iff ((Nat.cast_nonneg _).trans h.bounds.1)).mpr h.bounds

theorem half (h : IsTruncation x w) : IsTruncation x.shiftRightOne (w / 2) := by
  have hle := h.le
  have hexact := h.exact_iff
  have hhalves : halves x.shiftRightOne = x.mantissa := by
    have hmod := Nat.div_add_mod x.mantissa 2
    rcases Nat.mod_two_eq_zero_or_one x.mantissa with hzero | hone <;>
      simp [halves, ExtendedMantissa.shiftRightOne, *] <;> omega
  have hsticky : x.shiftRightOne.stickyBit = (x.roundBit || x.stickyBit) := rfl
  rw [halves] at hle hexact
  constructor <;> rw [hhalves, mul_div_cancel₀ w two_ne_zero]
  case le => exact h.bounds.1
  case lt => exact h.bounds.2
  case exact_iff =>
    rw [hsticky]
    cases hround : x.roundBit with
    | false =>
        rw [hround] at hexact
        push_cast [Bool.toNat_false] at hexact
        rw [Bool.false_or, hexact]
        constructor <;> intro _ <;> linarith
    | true =>
        rw [hround] at hle
        push_cast [Bool.toNat_true] at hle
        exact iff_of_false Bool.noConfusion fun h ↦ by linarith

/-- Digits are shifted out one by one. -/
theorem shiftRight (h : IsTruncation x w) (n : ℕ) : IsTruncation (x >>> n) (w / 2 ^ n) := by
  change IsTruncation (Nat.repeat ExtendedMantissa.shiftRightOne n x) _
  induction n with
  | zero => simpa [Nat.repeat] using h
  | succ n ih =>
      rw [Nat.repeat, pow_succ, ← div_div]
      exact ih.half

/-- The two bits are all that rounding needs. -/
theorem roundedMantissa_eq (h : IsTruncation x w) : x.roundedMantissa = roundEven w := by
  have hle := h.le
  have hlt := h.lt
  have hexact := h.exact_iff
  rw [roundEven, h.floor_eq]
  rcases x with ⟨m, _ | _, _ | _⟩ <;>
    simp only [halves, ExtendedMantissa.roundedMantissa, ExtendedMantissa.accuracy,
      Accuracy.roundToNearestEven, Bool.toNat_false, Bool.toNat_true] at hexact hle hlt ⊢ <;>
    push_cast at hexact hle hlt
  case false.false | false.true => rw [if_pos (by linarith)]
  case true.false =>
    have := hexact.mp trivial
    rw [if_neg (by linarith), if_pos (by linarith)]
  case true.true =>
    have hne : ¬2 * (m : ℚ) + 1 = 2 * w := hexact.mpr
    rw [if_neg (by linarith), if_neg fun h ↦ hne (by linarith)]

end IsTruncation

theorem isTruncation_natCast (m : ℕ) : IsTruncation (.ofMantissaAndAccuracy m .exact) m := by
  constructor <;> simp [halves, ExtendedMantissa.ofMantissaAndAccuracy]

/-- What is beyond the integer part is compared to a half. -/
theorem isTruncation_inexact {a b : ℕ} (ha : 0 < a) (hab : a < 2 * b)
    (hw : 2 * w = 2 * m + (a : ℚ) / b) :
    IsTruncation (.ofMantissaAndAccuracy m (.inexact (compare a b))) w := by
  have hb : (0 : ℚ) < b := by exact_mod_cast (by omega : 0 < b)
  have hpos : 0 < (a : ℚ) / b := div_pos (by exact_mod_cast ha) hb
  rcases lt_trichotomy a b with hbelow | rfl | habove
  · have hlt : (a : ℚ) / b < 1 := (div_lt_one hb).mpr (by exact_mod_cast hbelow)
    rw [compare_lt_iff_lt.mpr hbelow]
    constructor <;> simp only [halves, ExtendedMantissa.ofMantissaAndAccuracy, Bool.toNat_false, hw]
    case exact_iff => simpa using (by omega : ¬a = 0 ∧ ¬b = 0)
    all_goals push_cast; linarith
  · rw [compare_eq_iff_eq.mpr rfl]
    rw [div_self hb.ne'] at hw
    constructor <;> simp [halves, ExtendedMantissa.ofMantissaAndAccuracy, hw]
  · have hgt : 1 < (a : ℚ) / b := (one_lt_div hb).mpr (by exact_mod_cast habove)
    have hlt : (a : ℚ) / b < 2 := by
      rw [div_lt_iff₀ hb]
      exact_mod_cast hab
    rw [compare_gt_iff_gt.mpr habove]
    constructor <;> simp only [halves, ExtendedMantissa.ofMantissaAndAccuracy, Bool.toNat_true, hw]
    case exact_iff => simpa using hgt.ne
    all_goals push_cast; linarith

/-- A quotient is known from its integer part and its remainder. -/
theorem isTruncation_div (num : ℕ) {den : ℕ} (hden : 0 < den) :
    IsTruncation (.ofMantissaAndAccuracy (num / den) (accuracyOfFraction (num % den) den))
      (num / den) := by
  have hne : (den : ℚ) ≠ 0 := by exact_mod_cast hden.ne'
  rw [accuracyOfFraction]
  split_ifs with hzero
  · rw [← Nat.cast_div (Nat.dvd_of_mod_eq_zero hzero) hne]
    exact isTruncation_natCast _
  · have hmod := Nat.mod_lt num hden
    refine isTruncation_inexact (by omega) (by omega) ?_
    field_simp
    exact_mod_cast by
      conv_lhs => rw [← Nat.div_add_mod num den]
      ring

/-! ## Rounding -/

theorem log_mul_zpow (hw : 0 < w) (e : ℤ) : Int.log 2 (w * 2 ^ e) = Int.log 2 w + e := by
  refine eq_of_forall_le_iff fun k ↦ ?_
  have hscale : (2 : ℚ) ^ k ≤ w * 2 ^ e ↔ (2 : ℚ) ^ (k - e) ≤ w := by
    rw [zpow_sub₀ two_ne_zero, div_le_iff₀ (two_zpow_pos e)]
  have hleft := Int.zpow_le_iff_le_log (b := 2) (by norm_num) (mul_pos hw (two_zpow_pos e)) (x := k)
  have hright := Int.zpow_le_iff_le_log (b := 2) (by norm_num) hw (x := k - e)
  push_cast at hleft hright
  rw [← hleft, hscale, hright, sub_le_iff_le_add]

theorem targetExponent_floor (hw : 1 ≤ w) (e : ℤ) :
    Format.binary64.targetExponent (totalExponent ⌊w⌋₊ e) = unitExponent (w * 2 ^ e) := by
  rw [unitExponent, log_mul_zpow (by linarith), targetExponent_eq, Int.log_of_one_le_right 2 hw,
    Nat.log2_eq_log_two]

/-- Without an integer part the exponent must have been small enough before. -/
theorem targetExponent_of_le (hw : 0 < w) (he : e ≤ unitExponent (w * 2 ^ e)) :
    Format.binary64.targetExponent (totalExponent ⌊w⌋₊ e) = unitExponent (w * 2 ^ e) := by
  rcases lt_or_ge w 1 with hlt | hge
  · have hlog : Int.log 2 w < 0 := by
      rwa [← Int.lt_zpow_iff_log_lt (by norm_num) hw, zpow_zero]
    rw [unitExponent, log_mul_zpow hw] at he ⊢
    rw [targetExponent_eq, Nat.floor_eq_zero.mpr hlt, Nat.log2_zero]
    omega
  · exact targetExponent_floor hge e

/-- A significand of fifty-three digits, or of less if the exponent is the least one. -/
structure IsCanonical (m : ℕ) (e : ℤ) : Prop where
  /-- There are not too many digits. -/
  lt : m < 2 ^ 53
  /-- The exponent is not too small. -/
  le : -1074 ≤ e
  /-- There are not too few digits. -/
  full : e = -1074 ∨ 2 ^ 52 ≤ m

/-- The number with this significand and exponent. -/
def ofParts (s : Sign) (m : ℕ) (e : ℤ) : UnpackedFloat :=
  if h : m = 0 then .zero s else .finite s m e (Nat.pos_of_ne_zero h)

theorem ofParts_of_pos (hm : 0 < m) : ofParts s m e = .finite s m e hm := dif_neg hm.ne'

theorem pos_of_mul_zpow_pos (h : 0 < (m : ℚ) * 2 ^ e) : 0 < m := by
  exact_mod_cast pos_of_mul_pos_left h (two_zpow_pos e).le

theorem mantissa_ofMantissaAndAccuracy (m : ℕ) (acc : Accuracy) :
    (ExtendedMantissa.ofMantissaAndAccuracy m acc).mantissa = m := by
  rcases acc with _ | (_ | _ | _) <;> rfl

/-- Rounding can give a digit too many, but then the last digits are zero. -/
theorem shiftToTargetExponent_exact (hm : m ≤ 2 ^ 53) (he : -1074 ≤ e)
    (hfull : e = -1074 ∨ 2 ^ 52 ≤ m) :
    ∃ k E, IsCanonical k E ∧ (k : ℚ) * 2 ^ E = m * 2 ^ e ∧
      (shiftToTargetExponent .binary64 m e .exact).1.mantissa = k ∧
      (shiftToTargetExponent .binary64 m e .exact).2 = E := by
  rw [shiftToTargetExponent, targetExponent_eq, shiftToExponent]
  simp only [mantissa_shiftRight, mantissa_ofMantissaAndAccuracy]
  rcases hm.lt_or_eq with hlt | rfl
  · have hlog : m.log2 ≤ 52 := by
      rcases Nat.eq_zero_or_pos m with rfl | hpos
      · decide
      · exact Nat.lt_succ_iff.mp ((Nat.log2_lt hpos.ne').mpr hlt)
    rw [show (max (m.log2 + e - 52) (-1074) - e).toNat = 0 by omega]
    exact ⟨m, e, ⟨hlt, he, hfull⟩, rfl, by simp, by simp⟩
  · rw [Nat.log2_two_pow, show (max (((53 : ℕ) : ℤ) + e - 52) (-1074) - e).toNat = 1 by omega]
    refine ⟨2 ^ 52, e + 1, ⟨by norm_num, by omega, .inr le_rfl⟩, ?_, by norm_num, by simp⟩
    rw [zpow_add_one₀ two_ne_zero]
    push_cast
    ring

/-- What comes out of rounding is the nearest double. -/
theorem roundWithAccuracy_eq {acc : Accuracy}
    (hm : IsTruncation (.ofMantissaAndAccuracy m acc) w) (hw : 0 < w)
    (he : e ≤ unitExponent (w * 2 ^ e)) :
    ∃ k E, IsCanonical k E ∧ (k : ℚ) * 2 ^ E = nearest (w * 2 ^ e) ∧
      roundWithAccuracy .binary64 s m e acc = ofParts s k E := by
  have hv : 0 < w * 2 ^ e := mul_pos hw (two_zpow_pos e)
  have hunit := targetExponent_of_le hw he
  rw [hm.floor_eq, mantissa_ofMantissaAndAccuracy] at hunit
  generalize hvalue : w * 2 ^ e = v at hv hunit he
  have hscale : w / 2 ^ (unitExponent v - e).toNat = v / 2 ^ unitExponent v := by
    rw [← zpow_natCast, Int.toNat_of_nonneg (by omega), zpow_sub₀ two_ne_zero, ← hvalue]
    field_simp
  have hfirst : (shiftToTargetExponent .binary64 m e acc).1.roundedMantissa =
      roundEven (v / 2 ^ unitExponent v) := by
    rw [shiftToTargetExponent, hunit, shiftToExponent, ← hscale]
    exact (hm.shiftRight _).roundedMantissa_eq
  have hfirst' : (shiftToTargetExponent .binary64 m e acc).2 = unitExponent v := by
    rw [shiftToTargetExponent, hunit, shiftToExponent]
    simp only
    omega
  have hleast : -1074 ≤ unitExponent v := le_max_right _ _
  obtain ⟨k, E, hcanonical, hnearest, hk, hE⟩ :=
    shiftToTargetExponent_exact (roundEven_div_unit_le v) hleast
      (hleast.eq_or_lt'.imp id (le_roundEven_div_unit hv))
  refine ⟨k, E, hcanonical, hnearest, ?_⟩
  rw [← hfirst, ← hfirst'] at hk hE
  rw [← hk, ← hE]
  rfl

/-! ## Packing -/

theorem exponentBias_eq : Format.binary64.exponentBias = 1023 := by decide

theorem unpack_normal {x : BitVec 11} {y : BitVec 52} (hx : x ≠ -1#11) (hx' : x ≠ 0#11) :
    UnpackedFloat.unpack .binary64 (packComponents .binary64 s x y) =
      .finite s (2 ^ 52 + y.toNat) (x.toNat - 1075) (by positivity) := by
  have hdigits : (1#1 ++ y).toNat = 2 ^ 52 + y.toNat := by
    rw [BitVec.toNat_append, ← Nat.shiftLeft_add_eq_or_of_lt y.isLt]
    rfl
  simp only [UnpackedFloat.unpack, unpackMantissa_packComponents, unpackExponent_packComponents,
    unpackSign_packComponents, Sign.ofBitVec_toBitVec, exponentBias_eq]
  rw [if_neg hx, if_neg hx']
  simp only [hdigits]
  rfl

theorem unpack_subnormal {y : BitVec 52} (hy : y.toNat ≠ 0) :
    UnpackedFloat.unpack .binary64 (packComponents .binary64 s 0#11 y) =
      .finite s y.toNat (-1074) (Nat.pos_of_ne_zero hy) := by
  have hy' : y ≠ 0#52 := fun h ↦ hy (congrArg BitVec.toNat h)
  simp only [UnpackedFloat.unpack, unpackMantissa_packComponents, unpackExponent_packComponents,
    unpackSign_packComponents, Sign.ofBitVec_toBitVec]
  rw [if_neg (by decide), if_pos trivial, dif_neg hy']
  rfl

/-- What is canonical stays as it is, unless it is too great. -/
theorem unpack_pack_ofParts (h : IsCanonical m e) :
    (Float.Model.pack (ofParts s m e)).unpack =
      if e ≤ 971 then ofParts s m e else .infinity s := by
  change UnpackedFloat.unpack .binary64 (UnpackedFloat.pack .binary64 (ofParts s m e)) = _
  have hle := h.le
  rw [ofParts]
  split
  case isTrue hzero =>
    have he := h.full.resolve_right (by omega)
    rw [if_pos (by omega)]
    exact unpack_packedZero
  case isFalse hne =>
    have hbias : (e + (1023 : ℕ) + (52 : ℕ)).toNat = (e + 1075).toNat := by omega
    simp only [UnpackedFloat.pack, exponentBias_eq, hbias]
    rcases lt_or_ge 971 e with hgreat | he
    · rw [if_pos (by omega), if_neg (by omega)]
      cases s <;> rfl
    · have hbits : (BitVec.ofNat 11 (e + 1075).toNat).toNat = (e + 1075).toNat :=
        Nat.mod_eq_of_lt (by omega)
      rw [if_neg (by omega), if_pos he]
      split
      case isTrue hlog =>
        -- the leading digit is not packed
        have hlog : m.log2 = 52 := Nat.succ_injective hlog
        have hlead : 2 ^ 52 ≤ m := hlog ▸ Nat.log2_self_le hne
        have hdigits : 2 ^ 52 + (BitVec.ofNat 52 m).toNat = m := by
          have := h.lt
          rw [BitVec.toNat_ofNat]
          omega
        have hexponent : ((BitVec.ofNat 11 (e + 1075).toNat).toNat : ℤ) - 1075 = e := by
          rw [hbits]
          omega
        rw [unpack_normal]
        · simp only [hdigits, hexponent]
        · intro hmax
          have := congrArg BitVec.toNat hmax
          rw [hbits] at this
          change _ = 2047 at this
          omega
        · intro hmin
          have := congrArg BitVec.toNat hmin
          rw [hbits] at this
          change _ = 0 at this
          omega
      case isFalse hlog =>
        have hlog : ¬m.log2 + 1 = 53 := hlog
        have hle : m.log2 < 53 := (Nat.log2_lt hne).mpr h.lt
        have hlt : m < 2 ^ 52 := (Nat.log2_lt hne).mp (by omega)
        have hleast := h.full.resolve_right (by omega)
        have hdigits : (BitVec.ofNat 52 m).toNat = m := Nat.mod_eq_of_lt hlt
        rw [unpack_subnormal (by rwa [hdigits])]
        simp only [hdigits, hleast]

end Double

end Charting
