import Charting.Proofs.Numeric.DoubleIntegers

/-!
# Comparing numbers

`Scalar.compare?` is the order of numbers, as far as they have a value (`Scalar.isLE_compare?_iff`).
Cutting a number to an integer keeps the order, although it makes different numbers the same.
-/

namespace Charting

/-- Numbers that are compared as they are ordered, also once they are cut to integers. -/
class LawfulComparison (R : Type) [Scalar R] : Prop extends LawfulScalar R where
  /-- Equal numbers are those of which none is less. -/
  beq_iff_le_and_ge {a b : R} : (a == b) = true ↔ a ≤ b ∧ b ≤ a
  /-- A greater number is cut to no smaller integer. -/
  toInt64_le_toInt64 {a b : R} : Scalar.isFinite a = true → Scalar.isFinite b = true → a ≤ b →
    Scalar.toInt64 a ≤ Scalar.toInt64 b

/-! ## Rationals -/

theorem truncate_neg (q : ℚ) : truncate (-q) = -truncate q := by
  rw [truncate, truncate, Rat.neg_num, Rat.neg_den, Int.neg_tdiv]

theorem truncate_of_nonpos {q : ℚ} (hq : q ≤ 0) : truncate q = ⌈q⌉ := by
  rw [← neg_neg q, truncate_neg, truncate_of_nonneg (neg_nonneg.mpr hq), Int.ceil_neg]

theorem truncate_mono {p q : ℚ} (hpq : p ≤ q) : truncate p ≤ truncate q := by
  rcases le_total 0 p with hp | hp
  · rw [truncate_of_nonneg hp, truncate_of_nonneg (hp.trans hpq)]
    exact Int.floor_le_floor hpq
  rcases le_total 0 q with hq | hq
  · rw [truncate_of_nonpos hp, truncate_of_nonneg hq]
    exact (Int.ceil_le.mpr (by simpa using hp)).trans (Int.floor_nonneg.mpr hq)
  · rw [truncate_of_nonpos hp, truncate_of_nonpos hq]
    exact Int.ceil_le_ceil hpq

theorem clampInt64_mono {m n : ℤ} (hmn : m ≤ n) : clampInt64 m ≤ clampInt64 n := by
  unfold clampInt64 minInt64 maxInt64
  split_ifs <;> omega

instance : LawfulComparison ℚ where
  beq_iff_le_and_ge := beq_iff_eq.trans le_antisymm_iff
  toInt64_le_toInt64 _ _ hab := clampInt64_mono (truncate_mono hab)

/-! ## Doubles -/

namespace Double

open Float.Model (Format UnpackedFloat)
open Float.Model.UnpackedFloat

/-- Finite bits are a sign, a significand and an exponent. -/
theorem exists_unpack_eq (b : BitVec Format.binary64.numBits)
    (hfinite : (UnpackedFloat.unpack .binary64 b).isFinite = true) :
    ∃ s k E, IsCanonical k E ∧ UnpackedFloat.unpack .binary64 b = ofParts s k E := by
  rw [← packComponents_unpackSign_unpackExponent_unpackMantissa (b := b)] at hfinite ⊢
  generalize Sign.ofBitVec (unpackSign b) = s at hfinite ⊢
  generalize unpackExponent b = e at hfinite ⊢
  generalize unpackMantissa b = m at hfinite ⊢
  have hm : m.toNat < 2 ^ 52 := m.isLt
  by_cases hmax : e = -1#11
  · rw [UnpackedFloat.unpack, unpackExponent_packComponents, if_pos hmax] at hfinite
    split at hfinite <;> cases hfinite
  by_cases hmin : e = 0#11
  · subst hmin
    by_cases hzero : m = 0#52
    · subst hzero
      exact ⟨s, 0, -1074, ⟨by norm_num, le_rfl, .inl rfl⟩, unpack_packedZero⟩
    · have hne : m.toNat ≠ 0 := fun h ↦ hzero (BitVec.eq_of_toNat_eq h)
      refine ⟨s, m.toNat, -1074, ⟨by omega, le_rfl, .inl rfl⟩, ?_⟩
      rw [unpack_subnormal hne, ofParts_of_pos (Nat.pos_of_ne_zero hne)]
  · have hpos : e.toNat ≠ 0 := fun h ↦ hmin (BitVec.eq_of_toNat_eq h)
    refine ⟨s, 2 ^ 52 + m.toNat, e.toNat - 1075, ⟨by omega, by omega, .inr (by omega)⟩, ?_⟩
    rw [unpack_normal hmax hmin, ofParts_of_pos (by positivity)]

/-- A finite double has a sign, a significand and an exponent. -/
theorem exists_ofParts_eq {x : Float} (hx : Scalar.isFinite x = true) :
    ∃ s k E, IsCanonical k E ∧ x.toModel.unpack = ofParts s k E :=
  exists_unpack_eq x.toModel.toBits.toBitVec hx

theorem toInt64_mono {x y : Float} (hx : Scalar.isFinite x = true) (hy : Scalar.isFinite y = true)
    (hxy : x ≤ y) : toInt64 x ≤ toInt64 y := by
  obtain ⟨s, k, E, hcanonical, hunpack⟩ := exists_ofParts_eq hx
  obtain ⟨t, l, F, hcanonical', hunpack'⟩ := exists_ofParts_eq hy
  rw [toInt64_eq hcanonical hunpack, toInt64_eq hcanonical' hunpack']
  refine clampInt64_mono (truncate_mono ?_)
  exact (le_iff_of_ofParts hcanonical hcanonical' hunpack hunpack').mp hxy

/-- Doubles are equal if their ranks are. -/
theorem beq_iff {x y : Float} : (x == y) = true ↔ ∃ k, rank? x.toModel.unpack = some k ∧
    rank? y.toModel.unpack = some k := by
  have h : (x == y) = (x.toModel.unpack.compare y.toModel.unpack == some .eq) := rfl
  rw [h, compare_eq]
  cases rank? x.toModel.unpack with
  | none => simp
  | some k =>
      cases rank? y.toModel.unpack with
      | none => simp
      | some l => simpa using compare_eq_iff_eq.trans eq_comm

end Double

instance : LawfulComparison Float where
  beq_iff_le_and_ge := by
    intro a b
    change (a == b) = true ↔ a ≤ b ∧ b ≤ a
    rw [Double.beq_iff, Double.le_iff, Double.le_iff]
    constructor
    · rintro ⟨k, ha, hb⟩
      exact ⟨⟨k, k, ha, hb, le_rfl⟩, k, k, hb, ha, le_rfl⟩
    · rintro ⟨⟨k, l, ha, hb, hkl⟩, l', k', hb', ha', hlk⟩
      obtain rfl := Option.some.inj (ha.symm.trans ha')
      obtain rfl := Option.some.inj (hb.symm.trans hb')
      exact ⟨k, ha, hb.trans (congrArg some (le_antisymm hlk hkl))⟩
  toInt64_le_toInt64 := Double.toInt64_mono

/-! ## The order of numbers -/

namespace Scalar

variable {R : Type} [Scalar R] [LawfulComparison R] {a b : R}

/-- A comparison is known from which of the two numbers is at most the other one. -/
theorem compare?_eq (a b : R) : compare? a b =
    if a ≤ b then if b ≤ a then some .eq else some .lt
    else if b ≤ a then some .gt else none := by
  have hbeq : (a == b) = true ↔ a ≤ b ∧ b ≤ a := LawfulComparison.beq_iff_le_and_ge
  have hlt : a < b ↔ a ≤ b ∧ ¬b ≤ a := LawfulScalar.lt_iff_le_not_ge
  have hgt : b < a ↔ b ≤ a ∧ ¬a ≤ b := LawfulScalar.lt_iff_le_not_ge
  simp only [compare?, gt_iff_lt, hlt, hgt, hbeq]
  split_ifs <;> simp_all

/-- A comparison is turned around with its sides. -/
theorem compare?_swap (a b : R) : compare? b a = (compare? a b).map Ordering.swap := by
  rw [compare?_eq, compare?_eq]
  split_ifs <;> rfl

/-- A number is less or equal if it is compared as such. -/
theorem isLE_compare?_iff : (compare? a b).any (·.isLE) = true ↔ a ≤ b := by
  rw [compare?_eq]
  split_ifs <;> simp_all

/-- Two numbers compare if they are ordered. -/
theorem isSome_compare?_iff : (compare? a b).isSome = true ↔ a ≤ b ∨ b ≤ a := by
  rw [compare?_eq]
  split_ifs <;> simp_all

end Scalar

end Charting
