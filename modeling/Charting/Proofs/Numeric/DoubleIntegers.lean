import Charting.Proofs.Numeric.DoubleArithmetic

/-!
# Integers among the doubles

A double is taken apart into the very parts it was put together from (`ofFloat?_eq`).  So integers
of fifty-three digits come back from doubles, in their order, and quotients are cut off after they
have been rounded (`toInt64_div`), which is all that doubles need to be lawful.
-/

namespace Charting

open Float.Model (Format UnpackedFloat)
open Float.Model.UnpackedFloat

namespace Double

variable {v w : ℚ} {m n : ℕ} {e : ℤ} {s : Sign} {x y : Float}

/-! ## Taking apart -/

/-- Whether the sign is negative. -/
def isNegative : Sign → Bool
  | .negative => true
  | .positive => false

/-- The parts of a double. -/
def parts? : UnpackedFloat → Option Binary
  | .zero s => some ⟨isNegative s, 0, -1074⟩
  | .finite s m e _ => some ⟨isNegative s, m, e⟩
  | _ => none

section Fields

variable (b : BitVec Format.binary64.numBits)

theorem toNat_unpackExponent : (unpackExponent b).toNat = b.toNat / twoPow 52 % twoPow 11 := by
  rw [unpackExponent, BitVec.toNat_cast, BitVec.extractLsb_toNat, Nat.shiftRight_eq_div_pow]
  rfl

theorem toNat_unpackMantissa : (unpackMantissa b).toNat = b.toNat % twoPow 52 := by
  rw [unpackMantissa, BitVec.toNat_cast, BitVec.extractLsb_toNat]
  rfl

theorem toNat_unpackSign : (unpackSign b).toNat = b.toNat / twoPow 63 := by
  have hlt : b.toNat / 2 ^ 63 < 2 := Nat.div_lt_of_lt_mul b.isLt
  rw [unpackSign, BitVec.toNat_cast, BitVec.extractLsb_toNat, Nat.shiftRight_eq_div_pow]
  exact Nat.mod_eq_of_lt hlt

theorem isNegative_ofBitVec : ∀ b : BitVec 1, isNegative (Sign.ofBitVec b) = (b.toNat == 1) := by
  decide

/-- Both ways of taking bits apart are the same. -/
theorem parts?_unpack : parts? (UnpackedFloat.unpack .binary64 b) =
    if b.toNat / twoPow 52 % twoPow 11 = 2047 then none
    else if b.toNat / twoPow 52 % twoPow 11 = 0 then
      some ⟨b.toNat / twoPow 63 == 1, b.toNat % twoPow 52, -1074⟩
    else some ⟨b.toNat / twoPow 63 == 1, twoPow 52 + b.toNat % twoPow 52,
      ((b.toNat / twoPow 52 % twoPow 11 : ℕ) : ℤ) - 1075⟩ := by
  rw [← toNat_unpackExponent, ← toNat_unpackMantissa, ← toNat_unpackSign, ← isNegative_ofBitVec]
  have hwhole := packComponents_unpackSign_unpackExponent_unpackMantissa (b := b)
  conv_lhs => rw [← hwhole]
  generalize Sign.ofBitVec (unpackSign b) = sign
  generalize unpackExponent b = E
  generalize unpackMantissa b = M
  by_cases hmax : E = -1#11
  · rw [if_pos (by rw [hmax]; rfl), UnpackedFloat.unpack, unpackExponent_packComponents,
      if_pos hmax]
    split <;> rfl
  have hmax' : E.toNat ≠ 2047 := fun h ↦ hmax (BitVec.eq_of_toNat_eq h)
  rw [if_neg hmax']
  by_cases hmin : E = 0#11
  · rw [if_pos (by rw [hmin]; rfl), hmin]
    by_cases hzero : M = 0#52
    · rw [hzero]
      exact congrArg parts? unpack_packedZero
    · rw [unpack_subnormal fun h ↦ hzero (BitVec.eq_of_toNat_eq h)]
      rfl
  · have hmin' : E.toNat ≠ 0 := fun h ↦ hmin (BitVec.eq_of_toNat_eq h)
    rw [if_neg hmin', unpack_normal hmax hmin]
    rfl

end Fields

theorem ofFloat?_eq (x : Float) : Binary.ofFloat? x = parts? x.toModel.unpack :=
  (parts?_unpack x.toModel.toBits.toBitVec).symm

theorem parts?_ofParts (h : IsCanonical m e) :
    parts? (ofParts s m e) = some ⟨isNegative s, m, e⟩ := by
  rw [ofParts]
  split
  case isTrue hzero =>
    rw [h.full.resolve_right (by omega), hzero]
    rfl
  case isFalse => rfl

theorem twoPow_eq (n : ℕ) : (twoPow n : ℚ) = 2 ^ n := by
  exact_mod_cast Nat.cast_pow 2 n

/-- A number with its sign. -/
theorem toRat_eq (k : ℕ) (E : ℤ) :
    Binary.toRat ⟨isNegative s, k, E⟩ = s.apply k * (2 : ℚ) ^ E := by
  rw [Binary.toRat, Binary.ratio]
  have hsign (num : ℕ) : (if isNegative s then -(num : ℤ) else num) = s.apply num := by
    cases s <;> rfl
  have hscale (a b : ℤ) : s.apply (a * b) = s.apply a * b := by
    cases s
    · exact (neg_mul a b).symm
    · rfl
  rcases le_or_gt 0 E with hE | hE
  · obtain ⟨i, rfl⟩ := Int.eq_ofNat_of_zero_le hE
    rw [if_pos hE]
    simp only [hsign]
    rw [Rat.mkRat_eq_div, Nat.cast_mul, hscale, zpow_natCast]
    push_cast
    rw [twoPow_eq, div_one]
    rfl
  · obtain ⟨i, hi⟩ : ∃ i : ℕ, E = -i := ⟨(-E).toNat, by omega⟩
    rw [if_neg hE.not_ge]
    simp only [hsign]
    rw [Rat.mkRat_eq_div, hi, neg_neg, Int.toNat_natCast, twoPow_eq, zpow_neg, zpow_natCast,
      div_eq_mul_inv]

theorem toInt64_eq (h : IsCanonical m e) (hx : x.toModel.unpack = ofParts s m e) :
    toInt64 x = clampInt64 (truncate (s.apply m * 2 ^ e)) := by
  rw [toInt64, ofFloat?_eq, hx, parts?_ofParts h]
  simp only [toRat_eq]

/-! ## Integers -/

/-- Integers that are not too great are finite doubles. -/
theorem exists_ofNat_eq (hn : n ≤ 2 ^ 54) :
    ∃ k E, IsCanonical k E ∧ E ≤ 971 ∧ (k : ℚ) * 2 ^ E = nearest n ∧
      (Float.ofNat n).toModel.unpack = ofParts .positive k E := by
  rcases Nat.eq_zero_or_pos n with rfl | hpos
  · refine ⟨0, -1074, ⟨by norm_num, le_rfl, .inl rfl⟩, by norm_num, ?_, rfl⟩
    rw [nearest_natCast (Nat.zero_le _), Nat.cast_zero, zero_mul]
  · obtain ⟨k, E, hcanonical, hvalue, hunpack⟩ := isNearest_ofNat hpos
    have hupper := (nearest_bounds (half_le hpos)).2
    have hn' : (n : ℚ) ≤ 2 ^ 54 := by exact_mod_cast hn
    have hE : E ≤ 971 := hcanonical.exponent_le (by linarith)
    rw [if_pos hE] at hunpack
    exact ⟨k, E, hcanonical, hE, hvalue, hunpack⟩

/-- A double in the range is cut off. -/
theorem toInt64_of_positive (h : IsCanonical m e) (hx : x.toModel.unpack = ofParts .positive m e)
    (hlt : (m : ℚ) * 2 ^ e < 2 ^ 63) : toInt64 x = ⌊(m : ℚ) * 2 ^ e⌋ := by
  have hnonneg : (0 : ℚ) ≤ m * 2 ^ e := mul_nonneg (Nat.cast_nonneg m) (two_zpow_pos e).le
  have hfloor : ⌊(m : ℚ) * 2 ^ e⌋ < 2 ^ 63 := Int.floor_lt.mpr (by exact_mod_cast hlt)
  have hfloor' : 0 ≤ ⌊(m : ℚ) * 2 ^ e⌋ := Int.floor_nonneg.mpr hnonneg
  have htruncate : truncate ((Sign.positive.apply m : ℤ) * (2 : ℚ) ^ e) = ⌊(m : ℚ) * 2 ^ e⌋ :=
    truncate_of_nonneg hnonneg
  rw [toInt64_eq h hx, htruncate, clampInt64, minInt64, maxInt64]
  split_ifs <;> omega

theorem toInt64_of_zero (hx : x.toModel.unpack = .zero .positive) : toInt64 x = 0 := by
  have hzero := toInt64_of_positive (m := 0) (e := -1074) ⟨by norm_num, le_rfl, .inl rfl⟩ hx
  rw [Nat.cast_zero, zero_mul, Int.floor_zero] at hzero
  exact hzero (by norm_num)

theorem toInt64_of_isNearest (h : IsNearest v x.toModel.unpack) (hlt : nearest v < 2 ^ 63) :
    toInt64 x = ⌊nearest v⌋ := by
  obtain ⟨k, E, hcanonical, hvalue, hunpack⟩ := h
  rw [← hvalue] at hlt ⊢
  rw [if_pos (hcanonical.exponent_le hlt)] at hunpack
  exact toInt64_of_positive hcanonical hunpack hlt

/-- The quotient of two integers is rounded and then cut off. -/
theorem toInt64_div {a l : ℕ} {F : ℤ} (ha : a ≤ 2 ^ 54) (hn : 0 < n)
    (hl : (l : ℚ) * 2 ^ F = nearest n)
    (hunpack : (Float.ofNat n).toModel.unpack = ofParts .positive l F) :
    toInt64 (Float.ofNat a / Float.ofNat n) = ⌊quotient a n⌋ := by
  rw [ofParts_of_pos (pos_of_mul_zpow_pos (hl ▸ nearest_pos (half_le hn)))] at hunpack
  rcases Nat.eq_zero_or_pos a with rfl | hpos
  · rw [quotient_zero, Int.floor_zero]
    have hzero : (Float.ofNat 0).toModel.unpack = .zero .positive := rfl
    refine toInt64_of_zero ?_
    rw [toModel_div, hzero, hunpack]
    exact unpack_packedZero
  · obtain ⟨k, E, hcanonical, hE, hk, hunpack'⟩ := exists_ofNat_eq ha
    rw [ofParts_of_pos (pos_of_mul_zpow_pos (hk ▸ nearest_pos (half_le hpos)))] at hunpack'
    have hnearest := isNearest_div hunpack' hunpack
    rw [hk, hl] at hnearest
    exact toInt64_of_isNearest hnearest (quotient_lt hn hpos ha)

theorem isQuotient_toInt64 (hn : 0 < n) :
    IsQuotient n fun a ↦ Scalar.toInt64 (Scalar.ofInt a / Scalar.ofNat n : Float) := by
  obtain ⟨l, F, hcanonical, hl, hunpack⟩ := isNearest_ofNat hn
  rcases le_or_gt F 971 with hF | hF
  · refine (isQuotient_quotient hn).congr fun a ha ha' ↦ ?_
    obtain ⟨a, rfl⟩ := Int.eq_ofNat_of_zero_le ha
    rw [if_pos hF] at hunpack
    exact toInt64_div (by exact_mod_cast ha') hn hl hunpack
  · refine (IsQuotient.zero ?_).congr fun a ha ha' ↦ ?_
    · by_contra hle
      have hfinite := hcanonical.exponent_le <| by
        have hupper := (nearest_bounds (half_le hn)).2
        have hn' : (n : ℚ) ≤ 2 ^ 54 := by exact_mod_cast not_lt.mp hle
        rw [hl]
        linarith
      omega
    · obtain ⟨a, rfl⟩ := Int.eq_ofNat_of_zero_le ha
      obtain ⟨k, E, -, -, -, hunpack'⟩ := exists_ofNat_eq (n := a) (by exact_mod_cast ha')
      rw [if_neg hF.not_ge] at hunpack
      change toInt64 (Float.ofNat a / Float.ofNat n) = 0
      refine toInt64_of_zero ?_
      rw [toModel_div, hunpack, hunpack', ofParts]
      split <;> exact unpack_packedZero

/-! ## Order -/

/-- A greater exponent makes a greater number. -/
theorem IsCanonical.lt_of_exponent_lt {k l : ℕ} {E F : ℤ} (h : IsCanonical k E)
    (h' : IsCanonical l F) (hlt : E < F) : (k : ℚ) * 2 ^ E < l * 2 ^ F := by
  have hle := h.le
  have hk : (k : ℚ) < 2 ^ 53 := by exact_mod_cast h.lt
  have hl : (2 : ℚ) ^ 52 ≤ l := by exact_mod_cast h'.full.resolve_left (by omega)
  calc (k : ℚ) * 2 ^ E < 2 ^ 53 * 2 ^ E := mul_lt_mul_of_pos_right hk (two_zpow_pos E)
    _ = 2 ^ 52 * 2 ^ (E + 1) := by
      rw [zpow_add_one₀ two_ne_zero]
      ring
    _ ≤ (l : ℚ) * 2 ^ F := by
      gcongr
      · norm_num
      · omega

/-- Numbers are in the order of their exponents, and then of their significands. -/
theorem IsCanonical.le_iff_lex {k l : ℕ} {E F : ℤ} (h : IsCanonical k E) (h' : IsCanonical l F) :
    (k : ℚ) * 2 ^ E ≤ l * 2 ^ F ↔ toLex (E, (k : ℤ)) ≤ toLex (F, (l : ℤ)) := by
  rw [Prod.Lex.toLex_le_toLex]
  rcases lt_trichotomy E F with hlt | rfl | hgt
  · exact iff_of_true (h.lt_of_exponent_lt h' hlt).le (.inl hlt)
  · rw [mul_le_mul_iff_of_pos_right (two_zpow_pos E)]
    simp
  · refine iff_of_false (h'.lt_of_exponent_lt h hgt).not_ge ?_
    dsimp only
    omega

/-- The rank of a number with its sign. -/
def signedRank (s : Sign) (k : ℕ) (E : ℤ) : Int ×ₗ Int ×ₗ Int :=
  if k = 0 then toLex (0, toLex (0, 0)) else toLex (s.apply 1, toLex (s.apply E, s.apply k))

theorem rank?_ofParts (s : Sign) (k : ℕ) (E : ℤ) :
    rank? (ofParts s k E) = some (signedRank s k E) := by
  rw [ofParts, signedRank]
  split
  case isTrue => rfl
  case isFalse => cases s <;> rfl

theorem apply_neg (k : ℤ) : Sign.negative.apply k = -k := rfl

theorem apply_pos (k : ℤ) : Sign.positive.apply k = k := rfl

/-- The rank of a number says how great it is. -/
theorem signedRank_le_iff {k l : ℕ} {E F : ℤ} {t : Sign} (h : IsCanonical k E)
    (h' : IsCanonical l F) : signedRank s k E ≤ signedRank t l F ↔
      (s.apply k : ℚ) * 2 ^ E ≤ t.apply l * 2 ^ F := by
  have hlex := h.le_iff_lex h'
  have hlex' := h'.le_iff_lex h
  rw [Prod.Lex.toLex_le_toLex] at hlex hlex'
  dsimp only at hlex hlex'
  have hpos {k : ℕ} {E : ℤ} (hk : 0 < k) : (0 : ℚ) < k * 2 ^ E :=
    mul_pos (by exact_mod_cast hk) (two_zpow_pos E)
  rw [signedRank, signedRank]
  rcases Nat.eq_zero_or_pos k with rfl | hk <;> rcases Nat.eq_zero_or_pos l with rfl | hl
  · cases s <;> cases t <;> simp [apply_neg, apply_pos]
  · have := hpos (E := F) hl
    rw [if_pos rfl, if_neg hl.ne']
    cases s <;> cases t <;> simp only [apply_neg, apply_pos, Prod.Lex.toLex_le_toLex] <;> push_cast
    case negative.negative | positive.negative =>
      exact iff_of_false (by simp) (by linarith)
    case negative.positive | positive.positive =>
      exact iff_of_true (by simp) (by linarith)
  · have := hpos (E := E) hk
    rw [if_neg hk.ne', if_pos rfl]
    cases s <;> cases t <;> simp only [apply_neg, apply_pos, Prod.Lex.toLex_le_toLex] <;> push_cast
    case negative.negative | negative.positive =>
      exact iff_of_true (by simp) (by linarith)
    case positive.negative | positive.positive =>
      exact iff_of_false (by simp) (by linarith)
  · have := hpos (E := E) hk
    have := hpos (E := F) hl
    rw [if_neg hk.ne', if_neg hl.ne']
    cases s <;> cases t <;> simp only [apply_neg, apply_pos, Prod.Lex.toLex_le_toLex] <;> push_cast
    case negative.negative =>
      have hflip : -((k : ℚ) * 2 ^ E) ≤ -(l * 2 ^ F) ↔ (l : ℚ) * 2 ^ F ≤ k * 2 ^ E := neg_le_neg_iff
      rw [neg_mul, neg_mul, hflip, hlex', false_or, true_and]
      omega
    case negative.positive => exact iff_of_true (by simp) (by linarith)
    case positive.negative => exact iff_of_false (by simp) (by linarith)
    case positive.positive => rw [hlex, false_or, true_and]

theorem le_iff_of_ofParts {k l : ℕ} {E F : ℤ} {t : Sign} (h : IsCanonical k E)
    (h' : IsCanonical l F) (hx : x.toModel.unpack = ofParts s k E)
    (hy : y.toModel.unpack = ofParts t l F) :
    x ≤ y ↔ (s.apply k : ℚ) * 2 ^ E ≤ t.apply l * 2 ^ F := by
  rw [le_iff, hx, hy, rank?_ofParts, rank?_ofParts, ← signedRank_le_iff h h']
  simp

/-- Integers of fifty-three digits are doubles. -/
theorem exists_ofInt_eq {a : ℤ} (ha : |a| ≤ 2 ^ 53) :
    ∃ s k E, IsCanonical k E ∧ (s.apply k : ℚ) * 2 ^ E = a ∧
      (Float.ofInt a).toModel.unpack = ofParts s k E := by
  cases a with
  | ofNat n =>
      have hn : n ≤ 2 ^ 53 := by
        rw [Int.ofNat_eq_natCast, Nat.abs_cast] at ha
        exact_mod_cast ha
      obtain ⟨k, E, hcanonical, -, hvalue, hunpack⟩ := exists_ofNat_eq (hn.trans (by norm_num))
      refine ⟨.positive, k, E, hcanonical, ?_, hunpack⟩
      rw [nearest_natCast hn] at hvalue
      exact hvalue
  | negSucc n =>
      have hn : n + 1 ≤ 2 ^ 53 := by
        rw [Int.negSucc_eq, abs_neg] at ha
        exact_mod_cast (le_abs_self _).trans ha
      obtain ⟨k, E, hcanonical, hE, hvalue, hunpack⟩ := exists_ofNat_eq (hn.trans (by norm_num))
      refine ⟨.negative, k, E, hcanonical, ?_, ?_⟩
      · rw [nearest_natCast hn] at hvalue
        rw [apply_neg, Int.negSucc_eq]
        push_cast at hvalue ⊢
        linarith
      · have hneg : (Float.ofInt (.negSucc n)).toModel =
            .pack (.neg (Float.ofNat (n + 1)).toModel.unpack) := rfl
        have hparts : UnpackedFloat.neg (ofParts .positive k E) = ofParts .negative k E := by
          rw [ofParts, ofParts]
          split <;> rfl
        rw [hneg, hunpack, hparts, unpack_pack_ofParts hcanonical, if_pos hE]

end Double

instance : LawfulQuotients Float where
  ofInt_le_ofInt_iff {a b} ha hb := by
    obtain ⟨s, k, E, hcanonical, hvalue, hunpack⟩ := Double.exists_ofInt_eq ha
    obtain ⟨t, l, F, hcanonical', hvalue', hunpack'⟩ := Double.exists_ofInt_eq hb
    rw [← Int.cast_le (R := ℚ), ← hvalue, ← hvalue']
    exact Double.le_iff_of_ofParts hcanonical hcanonical' hunpack hunpack'
  isFinite_ofInt {a} ha := by
    obtain ⟨s, k, E, -, -, hunpack⟩ := Double.exists_ofInt_eq ha
    change (Float.ofInt a).toModel.unpack.isFinite = true
    rw [hunpack, Double.ofParts]
    split <;> rfl
  toInt64_ofInt {a} ha := by
    obtain ⟨s, k, E, hcanonical, hvalue, hunpack⟩ := Double.exists_ofInt_eq ha
    change Double.toInt64 (Float.ofInt a) = a
    rw [Double.toInt64_eq hcanonical hunpack, hvalue]
    exact toInt64_intCast ha
  isQuotient hn := Double.isQuotient_toInt64 hn

end Charting
