import Mathlib.Data.Int.Log
import Mathlib.Data.Rat.Floor
import Mathlib.Tactic.FieldSimp
import Mathlib.Tactic.Linarith
import Mathlib.Tactic.Positivity
import Mathlib.Tactic.Ring
import Charting.Proofs.Numeric.Integers

/-!
# The nearest double

A positive rational is rounded to a multiple of a power of two that leaves fifty-three binary
digits, unless that would be too small (`nearest`).  Rounding keeps the order (`nearest_mono`),
leaves integers of fifty-three digits alone (`nearest_natCast`) and is off by a small part of the
number (`abs_nearest_sub_le`).  So a rounded quotient is hardly less lawful than an exact one
(`isQuotient_quotient`).
-/

namespace Charting

namespace Double

/-- The nearest natural number; a half goes to the even neighbour. -/
def roundEven (w : ℚ) : ℕ :=
  if w - ⌊w⌋₊ < 1 / 2 then ⌊w⌋₊
  else if w - ⌊w⌋₊ = 1 / 2 then ⌊w⌋₊ + ⌊w⌋₊ % 2
  else ⌊w⌋₊ + 1

/-- The exponent of the last digit that is kept. -/
def unitExponent (v : ℚ) : ℤ := max (Int.log 2 v - 52) (-1074)

/-- The nearest double to a positive number, if there is no greatest one. -/
def nearest (v : ℚ) : ℚ := roundEven (v / 2 ^ unitExponent v) * 2 ^ unitExponent v

variable {v w : ℚ}

theorem two_zpow_pos (e : ℤ) : (0 : ℚ) < 2 ^ e := zpow_pos (by norm_num) e

theorem div_unit_nonneg (hv : 0 ≤ v) : 0 ≤ v / 2 ^ unitExponent v :=
  div_nonneg hv (two_zpow_pos _).le

theorem roundEven_bounds (w : ℚ) : ⌊w⌋₊ ≤ roundEven w ∧ roundEven w ≤ ⌊w⌋₊ + 1 := by
  unfold roundEven
  split_ifs <;> omega

theorem roundEven_natCast (n : ℕ) : roundEven n = n := by
  simp [roundEven]

theorem abs_roundEven_sub_le (hw : 0 ≤ w) : |(roundEven w : ℚ) - w| ≤ 1 / 2 := by
  have hle := Nat.floor_le hw
  have hlt := Nat.lt_floor_add_one w
  unfold roundEven
  split_ifs with hbelow hhalf
  · rw [abs_le]
    constructor <;> linarith
  · rcases Nat.mod_two_eq_zero_or_one ⌊w⌋₊ with heven | hodd
    · rw [heven, add_zero, abs_le]
      constructor <;> linarith
    · rw [hodd, abs_le]
      push_cast
      constructor <;> linarith
  · have habove := lt_of_le_of_ne (not_lt.mp hbelow) (Ne.symm hhalf)
    rw [abs_le]
    push_cast
    constructor <;> linarith

theorem roundEven_mono (h : v ≤ w) : roundEven v ≤ roundEven w := by
  have hfloor := Nat.floor_le_floor h
  rcases hfloor.eq_or_lt with heq | hlt
  · -- between the same integers the fractions decide
    unfold roundEven
    rw [← heq]
    split_ifs with hbelow hbelow' hhalf' hhalf hbelow' hhalf' hbelow' hhalf' <;>
      first | omega | (exfalso; linarith) | exact absurd (by linarith) hhalf
  · exact (roundEven_bounds v).2.trans (Nat.succ_le_of_lt hlt |>.trans (roundEven_bounds w).1)

/-! ## Digits -/

theorem div_unit_lt (v : ℚ) : v / 2 ^ unitExponent v < 2 ^ 53 := by
  have hpow := two_zpow_pos (unitExponent v)
  have hlog : v < 2 ^ (Int.log 2 v + 1) := Int.lt_zpow_succ_log_self (by norm_num) v
  have hexponent : Int.log 2 v + 1 ≤ 53 + unitExponent v := by
    rw [unitExponent]
    omega
  rw [div_lt_iff₀ hpow]
  calc v < 2 ^ (Int.log 2 v + 1) := hlog
    _ ≤ 2 ^ (53 + unitExponent v) := zpow_le_zpow_right₀ (by norm_num) hexponent
    _ = 2 ^ 53 * 2 ^ unitExponent v := by
      rw [zpow_add₀ (by norm_num)]
      norm_num

theorem le_div_unit (hv : 0 < v) (hunit : -1074 < unitExponent v) :
    2 ^ 52 ≤ v / 2 ^ unitExponent v := by
  have hpow := two_zpow_pos (unitExponent v)
  have hlog : (2 : ℚ) ^ Int.log 2 v ≤ v := Int.zpow_log_le_self (by norm_num) hv
  have hexponent : Int.log 2 v = 52 + unitExponent v := by
    rw [unitExponent] at hunit ⊢
    omega
  rw [le_div_iff₀ hpow]
  calc (2 : ℚ) ^ 52 * 2 ^ unitExponent v = 2 ^ (52 + unitExponent v) := by
        rw [zpow_add₀ (by norm_num)]
        norm_num
    _ = 2 ^ Int.log 2 v := by rw [hexponent]
    _ ≤ v := hlog

theorem roundEven_div_unit_le (v : ℚ) : roundEven (v / 2 ^ unitExponent v) ≤ 2 ^ 53 := by
  rw [← roundEven_natCast (2 ^ 53)]
  refine roundEven_mono ((div_unit_lt v).le.trans_eq ?_)
  norm_num

theorem le_roundEven_div_unit (hv : 0 < v) (hunit : -1074 < unitExponent v) :
    2 ^ 52 ≤ roundEven (v / 2 ^ unitExponent v) := by
  rw [← roundEven_natCast (2 ^ 52)]
  refine roundEven_mono (le_trans (le_of_eq ?_) (le_div_unit hv hunit))
  norm_num

/-! ## The nearest double -/

theorem nearest_nonneg (v : ℚ) : 0 ≤ nearest v :=
  mul_nonneg (Nat.cast_nonneg _) (two_zpow_pos _).le

/-- Rounding keeps the order. -/
theorem nearest_mono (hv : 0 < v) (h : v ≤ w) : nearest v ≤ nearest w := by
  have hlog : Int.log 2 v ≤ Int.log 2 w := Int.log_mono_right hv h
  have hunit : unitExponent v ≤ unitExponent w := by
    rw [unitExponent, unitExponent]
    omega
  rcases hunit.eq_or_lt with heq | hlt
  · have hpow := two_zpow_pos (unitExponent w)
    rw [nearest, nearest, heq]
    refine mul_le_mul_of_nonneg_right ?_ hpow.le
    exact_mod_cast roundEven_mono (div_le_div_of_nonneg_right h hpow.le)
  · -- a power of two lies between the two
    have hupper : (roundEven (v / 2 ^ unitExponent v) : ℚ) ≤ 2 ^ 53 := by
      exact_mod_cast roundEven_div_unit_le v
    have hlower : (2 : ℚ) ^ 52 ≤ roundEven (w / 2 ^ unitExponent w) := by
      exact_mod_cast le_roundEven_div_unit (hv.trans_le h) (by
        have : -1074 ≤ unitExponent v := le_max_right _ _
        omega)
    calc nearest v ≤ 2 ^ 53 * 2 ^ unitExponent v :=
          mul_le_mul_of_nonneg_right hupper (two_zpow_pos _).le
      _ = 2 ^ 52 * 2 ^ (unitExponent v + 1) := by
        rw [zpow_add_one₀ (by norm_num)]
        ring
      _ ≤ 2 ^ 52 * 2 ^ unitExponent w :=
        mul_le_mul_of_nonneg_left (zpow_le_zpow_right₀ (by norm_num) hlt) (by positivity)
      _ ≤ nearest w := mul_le_mul_of_nonneg_right hlower (two_zpow_pos _).le

/-- Integers of fifty-three digits are doubles. -/
theorem nearest_natCast {n : ℕ} (hn : n ≤ 2 ^ 53) : nearest n = n := by
  rcases Nat.eq_zero_or_pos n with rfl | hpos
  · simp [nearest, roundEven]
  have hlog : Int.log 2 (n : ℚ) ≤ 53 := by
    rw [Int.log_natCast]
    exact_mod_cast (Nat.log_mono_right hn).trans (Nat.log_pow (by norm_num) 53).le
  rcases hlog.eq_or_lt with heq | hlt
  · -- the power of two
    have hge : (2 : ℚ) ^ (53 : ℤ) ≤ n := by
      rw [← heq]
      exact Int.zpow_log_le_self (by norm_num) (by exact_mod_cast hpos)
    have hunit : unitExponent n = 1 := by
      rw [unitExponent, heq]
      norm_num
    have hn' : n = 2 ^ 53 := hn.antisymm (by exact_mod_cast hge)
    rw [nearest, hunit, hn']
    have hhalf : ((2 ^ 53 : ℕ) : ℚ) / 2 ^ (1 : ℤ) = (2 ^ 52 : ℕ) := by norm_num
    rw [hhalf, roundEven_natCast]
    norm_num
  · obtain ⟨k, hk⟩ : ∃ k : ℕ, unitExponent n = -k := by
      refine ⟨(-unitExponent n).toNat, ?_⟩
      have : unitExponent n ≤ 0 := by
        rw [unitExponent]
        omega
      omega
    have hscaled : (n : ℚ) / 2 ^ unitExponent (n : ℚ) = (n * 2 ^ k : ℕ) := by
      rw [hk, zpow_neg, zpow_natCast, div_inv_eq_mul]
      push_cast
      rfl
    rw [nearest, hscaled, roundEven_natCast, hk, zpow_neg, zpow_natCast]
    push_cast
    field_simp

/-- Rounding is off by a small part of the number. -/
theorem abs_nearest_sub_le (hv : 2 ^ (-1022 : ℤ) ≤ v) : |nearest v - v| ≤ v / 2 ^ 53 := by
  have hpos : 0 < v := (two_zpow_pos _).trans_le hv
  have hpow := two_zpow_pos (unitExponent v)
  have hlog : (-1022 : ℤ) ≤ Int.log 2 v := by
    rwa [← Int.zpow_le_iff_le_log (by norm_num) hpos]
  have hunit : unitExponent v = Int.log 2 v - 52 := by
    rw [unitExponent]
    omega
  have herror := abs_roundEven_sub_le (div_unit_nonneg hpos.le)
  have hscale : nearest v - v =
      (roundEven (v / 2 ^ unitExponent v) - v / 2 ^ unitExponent v) * 2 ^ unitExponent v := by
    rw [nearest, sub_mul, div_mul_cancel₀ _ hpow.ne']
  rw [hscale, abs_mul, abs_of_pos hpow]
  calc |(roundEven (v / 2 ^ unitExponent v) : ℚ) - v / 2 ^ unitExponent v| * 2 ^ unitExponent v
      ≤ 1 / 2 * 2 ^ unitExponent v := mul_le_mul_of_nonneg_right herror hpow.le
    _ = 2 ^ Int.log 2 v / 2 ^ 53 := by
      rw [hunit, zpow_sub₀ (by norm_num)]
      norm_num
      ring
    _ ≤ v / 2 ^ 53 :=
      div_le_div_of_nonneg_right (Int.zpow_log_le_self (by norm_num) hpos) (by positivity)

/-! ## Quotients -/

/-- Numbers that are not too small are rounded by a small part only. -/
theorem nearest_bounds (hv : 1 / 2 ≤ v) :
    v - v / 2 ^ 53 ≤ nearest v ∧ nearest v ≤ v + v / 2 ^ 53 := by
  have hsmall : (2 : ℚ) ^ (-1022 : ℤ) ≤ 2 ^ (-1 : ℤ) := zpow_le_zpow_right₀ one_le_two (by norm_num)
  have herror := abs_nearest_sub_le (hsmall.trans (by simpa using hv))
  rw [abs_le] at herror
  constructor <;> linarith

theorem nearest_pos (hv : 1 / 2 ≤ v) : 0 < nearest v := by
  have := (nearest_bounds hv).1
  norm_num at this
  linarith

/-- The rounded quotient of two rounded integers. -/
def quotient (a n : ℕ) : ℚ := nearest (nearest a / nearest n)

section Quotient

variable {a b n : ℕ}

theorem half_le (ha : 0 < a) : (1 / 2 : ℚ) ≤ a := by
  have : (1 : ℚ) ≤ a := by exact_mod_cast ha
  linarith

theorem quotient_mono (hn : 0 < n) (ha : 0 < a) (hab : a ≤ b) : quotient a n ≤ quotient b n := by
  have hn' := nearest_pos (half_le hn)
  refine nearest_mono (div_pos (nearest_pos (half_le ha)) hn') ?_
  gcongr
  exact nearest_mono (by exact_mod_cast ha) (by exact_mod_cast hab)

/-- A quotient is at least what its integers would have. -/
theorem le_quotient {k : ℕ} (hn : 0 < n) (hk : 0 < k) (ha : a ≤ 2 ^ 53) (hle : k * n ≤ a) :
    (k : ℚ) ≤ quotient a n := by
  have hka : k ≤ a := (Nat.le_mul_of_pos_right k hn).trans hle
  have hna : n ≤ a := (Nat.le_mul_of_pos_left n hk).trans hle
  have hn' : (0 : ℚ) < n := by exact_mod_cast hn
  rw [quotient, nearest_natCast ha, nearest_natCast (hna.trans ha)]
  calc (k : ℚ) = nearest k := (nearest_natCast (hka.trans ha)).symm
    _ ≤ nearest (a / n) := by
      refine nearest_mono (by exact_mod_cast hk) ?_
      rw [le_div_iff₀ hn']
      exact_mod_cast hle

theorem quotient_zero (n : ℕ) : quotient 0 n = 0 := by
  simp [quotient, nearest, roundEven]

/-- A quotient of at most a half is rounded down. -/
theorem quotient_of_le_half (hn : 0 < n) (ha : 0 < a) (h : nearest (a : ℚ) / nearest n ≤ 1 / 2) :
    quotient a n < 1 ∧ a < n := by
  have hn' := nearest_pos (half_le hn)
  have hhalf := (nearest_bounds (v := 1 / 2) le_rfl).2
  have hle := nearest_mono (div_pos (nearest_pos (half_le ha)) hn') h
  have hlower := (nearest_bounds (half_le ha)).1
  have hupper := (nearest_bounds (half_le hn)).2
  rw [div_le_iff₀ hn'] at h
  constructor
  · rw [quotient]
    norm_num at hhalf
    linarith
  · norm_num at hlower hupper
    have hnonneg : (0 : ℚ) < n := by exact_mod_cast hn
    exact_mod_cast (by linarith : (a : ℚ) < n)

/-- The quotient is that of a dividend nearby. -/
theorem abs_quotient_mul_sub_le (hn : 0 < n) (ha : 0 < a)
    (h : 1 / 2 ≤ nearest (a : ℚ) / nearest n) : |quotient a n * n - a| ≤ a / 2 ^ 49 := by
  have hn' := nearest_pos (half_le hn)
  obtain ⟨hlower, hupper⟩ : nearest (a : ℚ) / nearest n - nearest a / nearest n / 2 ^ 53 ≤
      quotient a n ∧ quotient a n ≤ nearest a / nearest n + nearest a / nearest n / 2 ^ 53 :=
    nearest_bounds h
  obtain ⟨ha₁, ha₂⟩ := nearest_bounds (half_le ha)
  obtain ⟨hn₁, hn₂⟩ := nearest_bounds (half_le hn)
  have hpos : 0 < quotient a n := nearest_pos h
  have hleft : quotient a n * (n - n / 2 ^ 53) ≤ nearest a + nearest a / 2 ^ 53 := by
    calc quotient a n * (n - n / 2 ^ 53) ≤ quotient a n * nearest n := by gcongr
      _ ≤ (nearest a / nearest n + nearest a / nearest n / 2 ^ 53) * nearest n := by gcongr
      _ = nearest a + nearest a / 2 ^ 53 := by field_simp
  have hright : nearest a - nearest a / 2 ^ 53 ≤ quotient a n * (n + n / 2 ^ 53) := by
    calc nearest (a : ℚ) - nearest a / 2 ^ 53
        = (nearest a / nearest n - nearest a / nearest n / 2 ^ 53) * nearest n := by field_simp
      _ ≤ quotient a n * nearest n := by gcongr
      _ ≤ quotient a n * (n + n / 2 ^ 53) := by gcongr
  have hnonneg : (0 : ℚ) ≤ a := Nat.cast_nonneg a
  have hsplit : quotient a n * (n - n / 2 ^ 53) =
      quotient a n * n - quotient a n * n / 2 ^ 53 := by ring
  have hsplit' : quotient a n * (n + n / 2 ^ 53) =
      quotient a n * n + quotient a n * n / 2 ^ 53 := by ring
  rw [hsplit] at hleft
  rw [hsplit'] at hright
  norm_num at ha₁ ha₂ hleft hright ⊢
  rw [abs_le]
  constructor <;> linarith

theorem quotient_lt (hn : 0 < n) (ha : 0 < a) (hle : a ≤ 2 ^ 54) : quotient a n < 2 ^ 63 := by
  rcases le_or_gt (nearest (a : ℚ) / nearest n) (1 / 2) with hhalf | hhalf
  · have := (quotient_of_le_half hn ha hhalf).1
    linarith
  · have hupper := (abs_le.mp (abs_quotient_mul_sub_le hn ha hhalf.le)).2
    have hself : quotient a n ≤ quotient a n * n :=
      le_mul_of_one_le_right (nearest_nonneg _) (by exact_mod_cast hn)
    have hle' : (a : ℚ) ≤ 2 ^ 54 := by exact_mod_cast hle
    linarith

/-- What is left of a dividend that is too great for its digits. -/
theorem lt_mul_ediv_add_one (a : ℕ) : (a : ℚ) < 2 ^ 48 * ((a / 2 ^ 48 : ℤ) + 1) := by
  exact_mod_cast (by omega : (a : ℤ) < 2 ^ 48 * (a / 2 ^ 48 + 1))

theorem floor_quotient_mul_le (hn : 0 < n) (a : ℕ) :
    ⌊quotient a n⌋ * n ≤ (a : ℤ) + a / 2 ^ 48 := by
  rcases le_or_gt ⌊quotient a n⌋ 0 with hzero | hone
  · have := mul_nonpos_of_nonpos_of_nonneg hzero (Int.natCast_nonneg n)
    omega
  have hpos : 0 < a := by
    refine Nat.pos_of_ne_zero ?_
    rintro rfl
    rw [quotient_zero, Int.floor_zero] at hone
    exact absurd hone (lt_irrefl 0)
  have hone' : 1 ≤ quotient a n := by exact_mod_cast Int.le_floor.mp hone
  have hhalf : 1 / 2 ≤ nearest (a : ℚ) / nearest n := by
    by_contra hlt
    have := (quotient_of_le_half hn hpos (not_le.mp hlt).le).1
    linarith
  have hupper := (abs_le.mp (abs_quotient_mul_sub_le hn hpos hhalf)).2
  have hfloor : (⌊quotient a n⌋ : ℚ) * n ≤ quotient a n * n := by
    gcongr
    exact Int.floor_le _
  have hrest := lt_mul_ediv_add_one a
  have hlt : (⌊quotient a n⌋ : ℚ) * n < a + (a / 2 ^ 48 : ℤ) + 1 := by
    push_cast at hrest ⊢
    linarith
  exact Int.lt_add_one_iff.mp (by exact_mod_cast hlt)

/-- The quotient of a small dividend is exact. -/
theorem lt_floor_quotient_mul_of_le (hn : 0 < n) (ha : a ≤ 2 ^ 53) :
    (a : ℤ) < (⌊quotient a n⌋ + 1) * n := by
  have hnonneg : 0 ≤ ⌊quotient a n⌋ := Int.floor_nonneg.mpr (nearest_nonneg _)
  by_contra hle
  obtain ⟨k, hk⟩ : ∃ k : ℕ, ⌊quotient a n⌋ + 1 = k := ⟨_, (Int.toNat_of_nonneg (by omega)).symm⟩
  rw [hk] at hle
  have hbelow : (k : ℚ) ≤ quotient a n :=
    le_quotient hn (by omega) ha (by exact_mod_cast not_lt.mp hle)
  have := Int.le_floor.mpr (by exact_mod_cast hbelow : ((k : ℤ) : ℚ) ≤ quotient a n)
  omega

theorem lt_floor_quotient_mul (hn : 0 < n) (a : ℕ) :
    (a : ℤ) < (⌊quotient a n⌋ + 1) * n + a / 2 ^ 48 := by
  rcases lt_or_ge a (2 ^ 48) with hsmall | hgreat
  · have := lt_floor_quotient_mul_of_le hn (hsmall.le.trans (by norm_num))
    omega
  have hpos : 0 < a := by omega
  rcases le_or_gt (nearest (a : ℚ) / nearest n) (1 / 2) with hhalf | hhalf
  · have hlt := (quotient_of_le_half hn hpos hhalf).2
    have hnonneg : 0 ≤ ⌊quotient a n⌋ := Int.floor_nonneg.mpr (nearest_nonneg _)
    have := le_mul_of_one_le_left (Int.natCast_nonneg n) (by omega : 1 ≤ ⌊quotient a n⌋ + 1)
    omega
  · have hlower := (abs_le.mp (abs_quotient_mul_sub_le hn hpos hhalf.le)).1
    have hfloor : quotient a n * n < (⌊quotient a n⌋ + 1) * n := by
      gcongr
      exact Int.lt_floor_add_one _
    have hrest := lt_mul_ediv_add_one a
    have hone : (1 : ℚ) ≤ ((a : ℤ) / 2 ^ 48 : ℤ) := by
      exact_mod_cast (by omega : (1 : ℤ) ≤ (a : ℤ) / 2 ^ 48)
    have hlt : (a : ℚ) < (⌊quotient a n⌋ + 1) * n + (a / 2 ^ 48 : ℤ) := by
      push_cast at hrest hone ⊢
      linarith
    exact_mod_cast hlt

theorem isQuotient_quotient (hn : 0 < n) : IsQuotient n fun a ↦ ⌊quotient a.toNat n⌋ := by
  constructor
  case pos => exact_mod_cast hn
  case mono =>
    intro a b ha hab _
    obtain ⟨a, rfl⟩ := Int.eq_ofNat_of_zero_le ha
    obtain ⟨b, rfl⟩ := Int.eq_ofNat_of_zero_le (ha.trans hab)
    refine Int.floor_le_floor ?_
    rcases Nat.eq_zero_or_pos a with rfl | hpos
    · exact (quotient_zero n).trans_le (nearest_nonneg _)
    · exact quotient_mono hn hpos (by exact_mod_cast hab)
  case mul_le =>
    intro a ha _
    obtain ⟨a, rfl⟩ := Int.eq_ofNat_of_zero_le ha
    exact floor_quotient_mul_le hn a
  case lt_mul =>
    intro a ha _
    obtain ⟨a, rfl⟩ := Int.eq_ofNat_of_zero_le ha
    exact lt_floor_quotient_mul hn a

end Quotient

end Double

end Charting
