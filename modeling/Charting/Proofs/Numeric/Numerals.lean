import Mathlib.Tactic.FieldSimp
import Mathlib.Tactic.Ring
import Charting.Proofs.Numeric.Decade
import Charting.Proofs.Time.Timestamp

/-!
# Numerals read back

A numeral with all its places written out reads as the number that it was written for
(`Exact.read?_positional`).  So does a number with a fixed number of places, if it has no more than
these (`Exact.read?_fixedPlaces`), and so does the text of a whole number of up to seventeen digits
(`Exact.read?_text_intCast`).
-/

namespace Charting

/-! ## Digits before and after the point -/

theorem readDigits_nil (n : Nat) : readDigits n [] = n := rfl

theorem readDigits_append (n : Nat) (ds ds' : List Char) :
    readDigits n (ds ++ ds') = readDigits (readDigits n ds) ds' := List.foldl_append

@[simp]
theorem readDigits_toDigits (n : Nat) : readDigits 0 (Nat.toDigits 10 n) = n := by
  rw [readDigits_eq, Nat.ofDigitChars_ten_toDigits]

theorem readDigits_zeros (n k : Nat) : readDigits n (zeros k) = n * 10 ^ k := by
  rw [readDigits_eq, zeros, Nat.ofDigitChars_replicate_zero, mul_comm]

/-- All characters are digits. -/
def AllDigits (cs : List Char) : Prop := ∀ c ∈ cs, c.isDigit

theorem allDigits_toDigits (n : Nat) : AllDigits (Nat.toDigits 10 n) :=
  fun _ ↦ Nat.isDigit_of_mem_toDigits (by decide) (by decide)

theorem allDigits_zeros (k : Nat) : AllDigits (zeros k) := by
  intro c hc
  obtain ⟨-, rfl⟩ := List.mem_replicate.mp hc
  decide

theorem AllDigits.append {cs cs' : List Char} (h : AllDigits cs) (h' : AllDigits cs') :
    AllDigits (cs ++ cs') := List.forall_mem_append.mpr ⟨h, h'⟩

namespace Decimal

/-- Digits, with some of them after a point if there is to be one. -/
def pointed (whole fraction : List Char) : List Char :=
  whole ++ if fraction = [] then [] else '.' :: fraction

/-- A magnitude is written with digits before the point, and after it as many as its exponent is
negative. -/
structure Spells (whole fraction : List Char) (digits : Nat) (exponent : Int) : Prop where
  /-- There is something before the point. -/
  ne_nil : whole ≠ []
  /-- Before the point there are digits. -/
  whole_digits : AllDigits whole
  /-- After the point there are digits. -/
  fraction_digits : AllDigits fraction
  /-- The places after the point. -/
  length_fraction : fraction.length = (-exponent).toNat
  /-- All digits together are the digits of the magnitude, and zeros for a positive exponent. -/
  read : readDigits 0 (whole ++ fraction) = digits * 10 ^ exponent.toNat

theorem exists_magnitude_eq (digits : Nat) (exponent : Int) :
    ∃ whole fraction, magnitude digits exponent = pointed whole fraction ∧
      Spells whole fraction digits exponent := by
  have hne : Nat.toDigits 10 digits ≠ [] := Nat.toDigits_ne_nil
  have hdigits := allDigits_toDigits digits
  unfold magnitude
  dsimp only
  split_ifs with hexp hzero hplaces
  · exact ⟨_, [], by simp [pointed], hne, hdigits, by simp [AllDigits], by simp; omega,
      by rw [List.append_nil, readDigits_toDigits, hzero, Nat.zero_mul]⟩
  · refine ⟨_, [], (List.append_nil _).symm, by simp [hne], hdigits.append (allDigits_zeros _),
      by simp [AllDigits], by simp; omega, ?_⟩
    rw [List.append_nil, readDigits_append, readDigits_toDigits, readDigits_zeros]
  · have hpoint : (Nat.toDigits 10 digits).drop ((Nat.toDigits 10 digits).length -
        (-exponent).toNat) ≠ [] := by
      rw [Ne, List.drop_eq_nil_iff]
      omega
    refine ⟨_, _, by rw [pointed, if_neg hpoint], ?_, fun c hc ↦ hdigits c (List.mem_of_mem_take hc),
      fun c hc ↦ hdigits c (List.mem_of_mem_drop hc), by rw [List.length_drop]; omega, ?_⟩
    · simp [List.take_eq_nil_iff]
      omega
    · rw [List.take_append_drop, readDigits_toDigits, Int.toNat_of_nonpos (by omega), pow_zero,
        mul_one]
  · have hlength : 0 < (Nat.toDigits 10 digits).length := List.length_pos_iff.mpr hne
    refine ⟨['0'], zeros ((-exponent).toNat - (Nat.toDigits 10 digits).length) ++
      Nat.toDigits 10 digits, ?_, by simp, by simp [AllDigits], (allDigits_zeros _).append hdigits,
      ?_, ?_⟩
    · simp [pointed]
    · rw [List.length_append, zeros, List.length_replicate]
      omega
    · have hzero : readDigits 0 ['0'] = 0 := rfl
      rw [readDigits_append, readDigits_append, hzero, readDigits_zeros, Nat.zero_mul,
        readDigits_toDigits, Int.toNat_of_nonpos (by omega), pow_zero, mul_one]

/-- The digits of a part end where the part ends. -/
theorem takeWhile_isDigit {cs : List Char} (hcs : AllDigits cs) (rest : List Char)
    (hrest : rest.head?.all (!·.isDigit)) :
    (cs ++ rest).takeWhile Char.isDigit = cs ∧ (cs ++ rest).dropWhile Char.isDigit = rest := by
  rw [List.takeWhile_append_of_pos hcs, List.dropWhile_append_of_pos hcs]
  cases rest with
  | nil => simp
  | cons c rest =>
      have hc : c.isDigit = false := by simpa using hrest
      simp [hc]

theorem readUnsigned?_magnitude (negative : Bool) (digits : Nat) (exponent : Int) :
    readUnsigned? negative (magnitude digits exponent) =
      some ⟨negative, digits * 10 ^ exponent.toNat, -(-exponent).toNat⟩ := by
  obtain ⟨whole, fraction, hmagnitude, h⟩ := exists_magnitude_eq digits exponent
  rw [hmagnitude, pointed]
  by_cases hfraction : fraction = []
  · subst hfraction
    obtain ⟨htake, hdrop⟩ := takeWhile_isDigit h.whole_digits [] rfl
    have hread := h.read
    have hplaces : (-exponent).toNat = 0 := h.length_fraction.symm
    rw [List.append_nil] at htake hdrop hread
    simp [readUnsigned?, readExponent?, h.ne_nil, htake, hdrop, hread, hplaces, readDigits_nil]
  · obtain ⟨htake, hdrop⟩ := takeWhile_isDigit h.whole_digits ('.' :: fraction) rfl
    obtain ⟨htake', hdrop'⟩ := takeWhile_isDigit h.fraction_digits [] rfl
    have hread := h.read
    rw [List.append_nil] at htake' hdrop'
    rw [readDigits_append] at hread
    simp [readUnsigned?, readExponent?, h.ne_nil, hfraction, htake, hdrop, htake', hdrop', hread,
      h.length_fraction]

/-- There is nothing but digits, a sign and a point in a numeral. -/
theorem mem_positional {d : Decimal} {c : Char} (hc : c ∈ d.positional.toList) :
    c.isDigit ∨ c = '-' ∨ c = '.' := by
  obtain ⟨whole, fraction, hmagnitude, h⟩ := exists_magnitude_eq d.digits d.exponent
  rw [positional, String.toList_ofList, hmagnitude, pointed, List.mem_append, List.mem_append] at hc
  rcases hc with hc | hc | hc
  · unfold sign at hc
    split at hc <;> simp_all
  · exact .inl (h.whole_digits c hc)
  · split at hc
    · simp at hc
    · rcases List.mem_cons.mp hc with rfl | hc
      · exact .inr (.inr rfl)
      · exact .inl (h.fraction_digits c hc)

theorem splitSign_of_isDigit {c : Char} (hc : c.isDigit) (cs : List Char) :
    splitSign (c :: cs) = (false, c :: cs) := by
  have hminus : c ≠ '-' := by rintro rfl; contradiction
  have hplus : c ≠ '+' := by rintro rfl; contradiction
  unfold splitSign
  split <;> simp_all

theorem toLower_of_isDigit {c : Char} (hc : c.isDigit) : c.toLower = c := by
  refine dif_neg ?_
  simp only [Char.isDigit, Bool.and_eq_true, decide_eq_true_eq, ge_iff_le,
    UInt32.le_iff_toNat_le] at hc ⊢
  have hnine : '9'.val.toNat = 57 := rfl
  have hupper : 'A'.val.toNat = 65 := rfl
  omega

/-- What starts with a digit after its sign is no word. -/
theorem numeral_of_isDigit {cs body : List Char} {negative : Bool} {c : Char} (hc : c.isDigit)
    (hsplit : splitSign cs = (negative, c :: body)) :
    Numeral.read? cs = (readUnsigned? negative (c :: body)).map .finite := by
  have hword (word : String) (hword : word.toList.head?.any Char.isDigit = false) :
      String.ofList ((c :: body).map Char.toLower) ≠ word := by
    rintro rfl
    rw [String.toList_ofList, List.map_cons, toLower_of_isDigit hc] at hword
    simp [hc] at hword
  rw [Numeral.read?, hsplit]
  dsimp only
  rw [if_neg (not_or.mpr ⟨hword "inf" (by decide), hword "infinity" (by decide)⟩),
    if_neg (hword "nan" (by decide))]

/-- A numeral with all its places written out reads as the numeral, where zeros at the end of an
integer are digits. -/
theorem read?_positional (d : Decimal) : Numeral.read? d.positional.toList =
    some (.finite ⟨d.negative, d.digits * 10 ^ d.exponent.toNat, -(-d.exponent).toNat⟩) := by
  obtain ⟨whole, fraction, hmagnitude, h⟩ := exists_magnitude_eq d.digits d.exponent
  obtain ⟨c, cs, hwhole⟩ := List.exists_cons_of_ne_nil h.ne_nil
  have hc : c.isDigit := h.whole_digits c (by simp [hwhole])
  have hcons : magnitude d.digits d.exponent =
      c :: (cs ++ if fraction = [] then [] else '.' :: fraction) := by
    rw [hmagnitude, pointed, hwhole, List.cons_append]
  have hsplit : splitSign (d.sign ++ magnitude d.digits d.exponent) =
      (d.negative, magnitude d.digits d.exponent) := by
    rw [hcons]
    cases hneg : d.negative with
    | true => simp [sign, hneg, splitSign]
    | false => simp [sign, hneg, splitSign_of_isDigit hc]
  rw [hcons] at hsplit
  rw [positional, String.toList_ofList, hcons, numeral_of_isDigit hc hsplit, ← hcons,
    readUnsigned?_magnitude]
  rfl

end Decimal

/-! ## Exact numbers -/

namespace Exact

/-- The value of a decimal in one formula. -/
theorem ofDecimal_eq (d : Decimal) :
    ofDecimal d = (if d.negative then -1 else 1) * (d.digits * 10 ^ d.exponent) := by
  have hmagnitude : (if 0 ≤ d.exponent then (d.digits : ℚ) * tenPow d.exponent.toNat
      else (d.digits : ℚ) / tenPow (-d.exponent).toNat) = d.digits * 10 ^ d.exponent := by
    rw [tenPow_eq, tenPow_eq, Nat.cast_pow, Nat.cast_pow, Nat.cast_ofNat, ← zpow_natCast,
      ← zpow_natCast]
    split_ifs with hexp
    · rw [Int.toNat_of_nonneg hexp]
    · rw [Int.toNat_of_nonneg (by omega), zpow_neg, div_inv_eq_mul]
  rw [ofDecimal, hmagnitude]
  split_ifs
  · rw [neg_one_mul]
  · rw [one_mul]

/-- A numeral with all its places written out reads as its value. -/
theorem read?_positional (d : Decimal) : Scalar.read? d.positional.toList = some (ofDecimal d) := by
  rw [Scalar.read?, Decimal.read?_positional]
  refine congrArg some ?_
  rw [ofDecimal_eq, ofDecimal_eq]
  dsimp only
  rw [Nat.cast_mul, Nat.cast_pow, Nat.cast_ofNat, mul_assoc, ← zpow_natCast, ← zpow_add₀ (by norm_num)]
  congr 3
  omega

theorem sign_mul_abs (q : ℚ) : (if decide (q < 0) = true then -1 else 1) * |q| = q := by
  by_cases hneg : q < 0
  · simp [hneg, abs_of_neg]
  · simp [hneg, abs_of_nonneg (not_lt.mp hneg)]

theorem roundHalfEven_mul (m : Nat) {den : Nat} (hden : 0 < den) :
    roundHalfEven (m * den) den = m := by
  simp [roundHalfEven, Nat.mul_div_cancel m hden, hden]

/-- A number with no more places than are written reads as itself. -/
theorem read?_fixedPlaces {places : Nat} {q : ℚ} {n : ℤ} (h : q * 10 ^ places = n) :
    Scalar.read? (fixedPlaces places q).toList = some q := by
  have hpow : (0 : ℚ) < 10 ^ places := by positivity
  have hint : q.num * 10 ^ places = n * q.den := by
    have hden : (q.den : ℚ) ≠ 0 := by exact_mod_cast q.den_ne_zero
    have hmul : (q.num * 10 ^ places : ℚ) = n * q.den := by
      rw [← h]
      nth_rewrite 2 [← Rat.num_div_den q]
      field_simp
    exact_mod_cast hmul
  have hnat : q.num.natAbs * tenPow places = n.natAbs * q.den := by
    have habs := congrArg Int.natAbs hint
    rwa [Int.natAbs_mul, Int.natAbs_mul, Int.natAbs_pow, Int.natAbs_natCast] at habs
  rw [fixedPlaces, hnat, roundHalfEven_mul _ q.den_pos, read?_positional, ofDecimal_eq]
  dsimp only
  rw [zpow_neg, zpow_natCast, ← div_eq_mul_inv, Nat.cast_natAbs, Int.cast_abs, ← h, abs_mul,
    abs_of_pos hpow, mul_div_cancel_right₀ _ hpow.ne']
  exact congrArg some (sign_mul_abs q)

/-- Dropping zeros at the end does not change the value. -/
theorem stripZeros_eq (fuel n : Nat) (e : ℤ) :
    ((Decimal.stripZeros fuel n e).1 * 10 ^ (Decimal.stripZeros fuel n e).2 : ℚ) = n * 10 ^ e := by
  induction fuel generalizing n e with
  | zero => rfl
  | succ fuel ih =>
      rw [Decimal.stripZeros]
      split
      case isTrue h =>
        have hn : n / 10 * 10 = n := Nat.div_mul_cancel (Nat.dvd_of_mod_eq_zero h.1)
        have hn' : ((n / 10 : ℕ) * 10 : ℚ) = n := by exact_mod_cast hn
        rw [ih, zpow_add_one₀ (by norm_num), ← hn']
        ring
      case isFalse => rfl

theorem ofDecimal_normalize (d : Decimal) : ofDecimal d.normalize = ofDecimal d := by
  rw [ofDecimal_eq, ofDecimal_eq, Decimal.normalize]
  split
  case isTrue h => simp [h]
  case isFalse => rw [stripZeros_eq]

/-- A whole number of up to seventeen digits is written out in full. -/
theorem read?_text_intCast {n : ℤ} (h : n.natAbs < 10 ^ 17) :
    Scalar.read? (Scalar.text (n : ℚ)).toList = some (n : ℚ) := by
  change Scalar.read? (toDecimal n).positional.toList = _
  rw [read?_positional, toDecimal]
  split
  case isTrue hzero =>
    simp [ofDecimal_eq, hzero]
  case isFalse hzero =>
    have hden : (n : ℚ).den = 1 := Rat.den_intCast n
    have hnum : (n : ℚ).num = n := Rat.num_intCast n
    have hpos : 1 ≤ n.natAbs := Int.natAbs_pos.mpr (by exact_mod_cast hzero)
    obtain ⟨hlower, -⟩ := decade_bounds_of_le one_pos hpos
    have hexp : decade n.natAbs 1 - 16 ≤ 0 := by
      have hlt : (10 : ℚ) ^ decade n.natAbs 1 < 10 ^ (17 : ℤ) := by
        have hupper : (n.natAbs : ℚ) < 10 ^ 17 := by exact_mod_cast h
        have hone : ((1 : ℕ) : ℚ) = 1 := Nat.cast_one
        rw [hone, mul_one] at hlower
        exact hlower.trans_lt (hupper.trans_eq (zpow_ofNat 10 17).symm)
      have := (zpow_lt_zpow_iff_right₀ (by norm_num : (1 : ℚ) < 10)).mp hlt
      omega
    rw [ofDecimal_normalize, ofDecimal_eq]
    dsimp only
    rw [hden, hnum]
    generalize decade n.natAbs 1 - 16 = e at *
    have hdigits : (if 0 ≤ e then roundHalfEven n.natAbs (1 * tenPow e.toNat)
        else roundHalfEven (n.natAbs * tenPow (-e).toNat) 1) = n.natAbs * 10 ^ (-e).toNat := by
      have hround (m : Nat) : roundHalfEven m 1 = m := by simpa using roundHalfEven_mul m one_pos
      split_ifs with hnonneg
      · obtain rfl : e = 0 := by omega
        exact (hround _).trans (mul_one _).symm
      · exact hround _
    rw [hdigits, Nat.cast_mul, Nat.cast_pow, Nat.cast_ofNat, ← zpow_natCast,
      Int.toNat_of_nonneg (by omega), mul_assoc, ← zpow_add₀ (by norm_num), neg_add_cancel, zpow_zero,
      mul_one, Nat.cast_natAbs, Int.cast_abs]
    exact congrArg some (sign_mul_abs n)

end Exact

end Charting
