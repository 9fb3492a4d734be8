import Mathlib.Data.List.DropRight
import Charting.Proofs.Numeric.Numerals

/-!
# Dates are no numerals

No text reads both as a date and as a number (`Timestamp.numeral_eq_none`).  A date starts with the
digits of its year, maybe after a sign, and then comes a separator (`Timestamp.exists_startsWith`);
in a numeral nothing but more digits, a point or an exponent can come there.
-/

namespace Charting

/-- No blank is left in front of a trimmed text. -/
theorem dropBlanks_trimBlanks (cs : List Char) : dropBlanks (trimBlanks cs) = trimBlanks cs := by
  obtain ⟨rest, hrest⟩ : trimBlanks cs <+: dropBlanks cs :=
    List.rdropWhile_prefix isBlank (dropBlanks cs)
  cases htrim : trimBlanks cs with
  | nil => rfl
  | cons c t =>
      have hhead := List.head?_dropWhile_not isBlank cs
      have hcons : cs.dropWhile isBlank = c :: (t ++ rest) := by
        rw [htrim] at hrest
        exact hrest.symm
      rw [hcons] at hhead
      exact List.dropWhile_cons_of_neg (Bool.eq_false_iff.mp hhead)

namespace Timestamp

/-! ## What readers take from a text -/

theorem eq_cons_of_literal {c : Char} {cs rest : List Char}
    (h : literal [c] cs = some ((), rest)) : cs = c :: rest := by
  rw [literal] at h
  split at h
  case isTrue hprefix =>
    obtain ⟨rest', rfl⟩ := List.isPrefixOf_iff_prefix.mp hprefix
    obtain ⟨-, rfl⟩ := Prod.mk.inj (Option.some.inj h)
    rfl
  case isFalse => cases h

/-- A text has digits in front of its rest. -/
def StartsWithDigits (cs rest : List Char) : Prop :=
  ∃ ds, ds ≠ [] ∧ AllDigits ds ∧ cs = ds ++ rest

theorem StartsWithDigits.exists_cons {cs rest : List Char} (h : StartsWithDigits cs rest) :
    ∃ c tail, cs = c :: tail ∧ c.isDigit := by
  obtain ⟨_ | ⟨c, ds⟩, hne, hdigits, rfl⟩ := h
  · exact absurd rfl hne
  · exact ⟨c, ds ++ rest, rfl, hdigits c List.mem_cons_self⟩

theorem StartsWithDigits.of_exactDigits {width n : Nat} (hwidth : 0 < width) {cs rest : List Char}
    (h : exactDigits width cs = some (n, rest)) : StartsWithDigits cs rest := by
  simp only [exactDigits] at h
  split at h
  case isTrue hdigits =>
    obtain ⟨-, rfl⟩ := Prod.mk.inj (Option.some.inj h)
    refine ⟨cs.take width, ?_, List.all_eq_true.mp hdigits.2, (List.take_append_drop _ _).symm⟩
    rw [← List.length_pos_iff, hdigits.1]
    exact hwidth
  case isFalse => cases h

/-- The first digits of a text are in front of what is left without them. -/
theorem StartsWithDigits.of_takeWhile {cs ds : List Char} (hds : ds <+: cs)
    (hne : ds.takeWhile Char.isDigit ≠ []) :
    StartsWithDigits cs (cs.drop (ds.takeWhile Char.isDigit).length) := by
  refine ⟨_, hne, fun c hc ↦ List.mem_takeWhile_imp hc, ?_⟩
  exact (List.prefix_iff_eq_append.mp ((List.takeWhile_prefix Char.isDigit).trans hds)).symm

theorem StartsWithDigits.of_upToDigits {width n : Nat} {cs rest : List Char}
    (h : upToDigits width cs = some (n, rest)) : StartsWithDigits (dropBlanks cs) rest := by
  simp only [upToDigits] at h
  split at h
  case isTrue => cases h
  case isFalse hne =>
    obtain ⟨-, rfl⟩ := Prod.mk.inj (Option.some.inj h)
    exact .of_takeWhile (List.take_prefix width _) hne

/-- A text has a year in front of its rest. -/
inductive StartsWithYear : List Char → List Char → Prop
  /-- A year without a sign. -/
  | plain {cs rest : List Char} (digits : StartsWithDigits cs rest) : StartsWithYear cs rest
  /-- A year with a sign. -/
  | signed {sign : Char} {cs rest : List Char} (hsign : sign = '-' ∨ sign = '+')
      (digits : StartsWithDigits cs rest) : StartsWithYear (sign :: cs) rest

theorem StartsWithYear.of_fourDigitYear {y : Int} {cs rest : List Char}
    (h : fourDigitYear cs = some (y, rest)) : StartsWithYear cs rest := by
  obtain ⟨⟨n, rest'⟩, hread, hrest⟩ := Option.bind_eq_some_iff.mp h
  obtain ⟨-, rfl⟩ := Prod.mk.inj (Option.some.inj hrest)
  exact .plain (.of_exactDigits (by decide) hread)

theorem StartsWithYear.of_year {y : Int} {cs rest : List Char} (hblank : dropBlanks cs = cs)
    (h : year cs = some (y, rest)) : StartsWithYear cs rest := by
  simp only [year, hblank] at h
  split at h
  case h_1 cs' =>
    split at h
    case isTrue => cases h
    case isFalse hne =>
      obtain ⟨-, rfl⟩ := Prod.mk.inj (Option.some.inj h)
      exact .signed (.inl rfl) (.of_takeWhile List.prefix_rfl hne)
  case h_2 cs' =>
    split at h
    case isTrue => cases h
    case isFalse hne =>
      obtain ⟨-, rfl⟩ := Prod.mk.inj (Option.some.inj h)
      exact .signed (.inr rfl) (.of_takeWhile List.prefix_rfl hne)
  case h_3 =>
    obtain ⟨⟨n, rest'⟩, hread, hrest⟩ := Option.bind_eq_some_iff.mp h
    obtain ⟨-, rfl⟩ := Prod.mk.inj (Option.some.inj hrest)
    exact .plain (hblank ▸ .of_upToDigits hread)

theorem exists_year_of_date {readYear : Reader Int} {readPart : Reader Nat} {sep : Char}
    {cs rest : List Char} {d : Date} (h : date readYear readPart sep cs = some (d, rest)) :
    ∃ y rest', readYear cs = some (y, sep :: rest') := by
  obtain ⟨⟨y, cs'⟩, hyear, h⟩ := Option.bind_eq_some_iff.mp h
  obtain ⟨⟨⟨⟩, rest'⟩, hliteral, -⟩ := Option.bind_eq_some_iff.mp h
  exact ⟨y, rest', hyear.trans (by rw [eq_cons_of_literal hliteral])⟩

/-- A date starts with a year, and a separator comes after it. -/
theorem exists_startsWith {s : String} {t : Int} (h : read? s = some t) :
    ∃ sep rest, (sep = '-' ∨ sep = '/') ∧ StartsWithYear (trimBlanks s.toList) (sep :: rest) := by
  have hblank := dropBlanks_trimBlanks s.toList
  rw [read?] at h
  generalize trimBlanks s.toList = cs at h hblank ⊢
  have hform {readYear : Reader Int} {readPart : Reader Nat} {sep : Char}
      {after : Date × List Char → Option Int} (hsep : sep = '-' ∨ sep = '/')
      (hyear : ∀ {y rest}, readYear cs = some (y, rest) → StartsWithYear cs rest)
      (h : (date readYear readPart sep cs).bind after = some t) :
      ∃ sep rest, (sep = '-' ∨ sep = '/') ∧ StartsWithYear cs (sep :: rest) := by
    obtain ⟨⟨d, rest⟩, hdate, -⟩ := Option.bind_eq_some_iff.mp h
    obtain ⟨y, rest', hread⟩ := exists_year_of_date hdate
    exact ⟨sep, rest', hsep, hyear hread⟩
  simp only [Option.orElse_eq_some] at h
  rcases h with h | ⟨-, h | ⟨-, h | ⟨-, h⟩⟩⟩
  · exact hform (.inl rfl) .of_fourDigitYear h
  · exact hform (.inl rfl) (.of_year hblank) h
  · exact hform (.inl rfl) (.of_year hblank) h
  · exact hform (.inr rfl) (.of_year hblank) h

end Timestamp

/-! ## Numerals -/

/-- In a numeral no separator comes after the first digits. -/
theorem Decimal.readUnsigned?_eq_none {cs rest : List Char} {sep : Char} (negative : Bool)
    (hsep : sep = '-' ∨ sep = '/') (h : Timestamp.StartsWithDigits cs (sep :: rest)) :
    readUnsigned? negative cs = none := by
  obtain ⟨ds, hne, hdigits, rfl⟩ := h
  have hstop : ((sep :: rest).head?.all (!·.isDigit)) = true := by
    rcases hsep with rfl | rfl <;> rfl
  obtain ⟨htake, hdrop⟩ := takeWhile_isDigit hdigits (sep :: rest) hstop
  rcases hsep with rfl | rfl <;> simp [readUnsigned?, readExponent?, htake, hdrop, hne]

theorem Numeral.read?_eq_none {cs rest : List Char} {sep : Char} (hsep : sep = '-' ∨ sep = '/')
    (h : Timestamp.StartsWithYear cs (sep :: rest)) : read? cs = none := by
  have hbody {negative : Bool} {body : List Char} (hsplit : splitSign cs = (negative, body))
      (hdigits : Timestamp.StartsWithDigits body (sep :: rest)) : read? cs = none := by
    obtain ⟨c, body', rfl, hc⟩ := hdigits.exists_cons
    rw [Decimal.numeral_of_isDigit hc hsplit, Decimal.readUnsigned?_eq_none negative hsep hdigits]
    rfl
  cases h with
  | plain hdigits =>
      obtain ⟨c, body, rfl, hc⟩ := hdigits.exists_cons
      exact hbody (Decimal.splitSign_of_isDigit hc body) hdigits
  | signed hsign hdigits => rcases hsign with rfl | rfl <;> exact hbody rfl hdigits

namespace Timestamp

/-- A date does not read as a number. -/
theorem numeral_eq_none {s : String} {t : Int} (h : read? s = some t) :
    Numeral.read? (trimBlanks s.toList) = none := by
  obtain ⟨sep, rest, hsep, hyear⟩ := exists_startsWith h
  exact Numeral.read?_eq_none hsep hyear

end Timestamp

end Charting
