import Mathlib.Tactic.Linarith
import Mathlib.Tactic.Ring

/-!
# Extension to multiples

An interval of integers is extended to multiples of a length by moving each end by less than that
length.  An interval that is extended by one length and then by a longer one is not too long for the
longer one (`IsExtended.width_le`), since ends that are multiples of a common divisor of both
lengths are moved by less.
-/

namespace Charting

/-- The ends of an interval have been moved outwards to the nearest multiples of a length, counted
from an offset. -/
structure IsExtended (length offset : Int) (d d' : Int × Int) : Prop where
  /-- The lower end is a multiple. -/
  dvd_fst : length ∣ d'.1 - offset
  /-- The upper end is a multiple. -/
  dvd_snd : length ∣ d'.2 - offset
  /-- The lower end is moved downwards. -/
  fst_le : d'.1 ≤ d.1
  /-- The lower end is moved by less than the length. -/
  lt_fst : d.1 < d'.1 + length
  /-- The upper end is moved upwards. -/
  le_snd : d.2 ≤ d'.2
  /-- The upper end is moved by less than the length. -/
  snd_lt : d'.2 < d.2 + length

/-- A common divisor of two lengths: the longer one is a multiple of the shorter one, or it is at
least two and a half times as long and a multiple of the half. -/
structure IsCommonPart (g y z : Int) : Prop where
  /-- The divisor is positive. -/
  pos : 0 < g
  /-- It divides the shorter length. -/
  dvd_left : g ∣ y
  /-- It divides the longer length. -/
  dvd_right : g ∣ z
  /-- It is the shorter length, or at least half of that. -/
  ratio : 2 * y ≤ z ∧ g = y ∨ 5 * y ≤ 2 * z ∧ y ≤ 2 * g

instance (g y z : Int) : Decidable (IsCommonPart g y z) :=
  decidable_of_iff (0 < g ∧ g ∣ y ∧ g ∣ z ∧ (2 * y ≤ z ∧ g = y ∨ 5 * y ≤ 2 * z ∧ y ≤ 2 * g))
    ⟨fun ⟨h, hy, hz, hratio⟩ ↦ ⟨h, hy, hz, hratio⟩, fun ⟨h, hy, hz, hratio⟩ ↦ ⟨h, hy, hz, hratio⟩⟩

namespace IsExtended

variable {y z g o c e : Int} {d d' d'' : Int × Int}

/-- The width is a whole number of lengths. -/
theorem dvd_width (h : IsExtended y o d d') : y ∣ d'.2 - d'.1 := by
  have := Int.dvd_sub h.dvd_snd h.dvd_fst
  rwa [sub_sub_sub_cancel_right] at this

/-- Multiples of a divisor that differ by less than a length differ by a divisor less. -/
theorem add_le_of_dvd {a b : Int} (hg : g ∣ y) (hdvd : g ∣ b - a) (hlt : b < a + y) :
    b ≤ a + (y - g) := by
  obtain ⟨j, rfl⟩ := hg
  obtain ⟨i, hi⟩ := hdvd
  rcases le_or_gt g 0 with hneg | hpos
  · omega
  · have hij : i < j := lt_of_mul_lt_mul_left (by omega) hpos.le
    nlinarith

/-- Ends that are aligned with a divisor of the length are moved by less. -/
theorem width_le_of_dvd (h : IsExtended y o d d') (hg : g ∣ y) (hfst : g ∣ d.1 - o)
    (hsnd : g ∣ d.2 - o) : d'.2 - d'.1 ≤ d.2 - d.1 + 2 * (y - g) := by
  have hlower := add_le_of_dvd hg (by
    have := Int.dvd_sub hfst (hg.trans h.dvd_fst)
    rwa [sub_sub_sub_cancel_right] at this) h.lt_fst
  have hupper := add_le_of_dvd hg (by
    have := Int.dvd_sub (hg.trans h.dvd_snd) hsnd
    rwa [sub_sub_sub_cancel_right] at this) h.snd_lt
  omega

/-- Integers are multiples of one already. -/
theorem eq_of_length_one (h : IsExtended 1 o d d') : d' = d := by
  have hlower := h.lt_fst
  have hupper := h.snd_lt
  exact Prod.ext (by linarith [h.fst_le]) (by linarith [h.le_snd])

/-- An interval of little more than `c` shorter lengths is extended to multiples of the shorter
length and then of the longer one: there are no more than `c` longer lengths in it. -/
theorem width_le (h : IsExtended y 0 d d') (h' : IsExtended z o d' d'') (hpart : IsCommonPart g y z)
    (ho : g ∣ o) (hy : 2 ≤ y) (hc : 2 ≤ c) (he : e = 0 ∨ 0 < e ∧ e + 8 ≤ c)
    (hwidth : d.2 - d.1 < c * (y + 1) + e) : d''.2 - d''.1 ≤ c * z := by
  obtain ⟨hg, hgy, hgz, hratio⟩ := hpart
  have hfirst := h.width_le_of_dvd (one_dvd y) (one_dvd _) (one_dvd _)
  have haligned (p : Int) (hp : y ∣ p - 0) : g ∣ p - o := by
    rw [sub_zero] at hp
    exact Int.dvd_sub (hgy.trans hp) ho
  have hsecond := h'.width_le_of_dvd hgz (haligned _ h.dvd_fst) (haligned _ h.dvd_snd)
  obtain ⟨m, hm⟩ := h.dvd_width
  obtain ⟨n, hn⟩ := h'.dvd_width
  rw [hm] at hfirst hsecond
  rw [hn] at hsecond ⊢
  by_contra hlong
  -- at least one longer length more
  have hz : 0 < z := by rcases hratio with ⟨h, -⟩ | ⟨h, -⟩ <;> omega
  have hn' : c + 1 ≤ n := by
    rw [not_le, mul_comm z] at hlong
    exact lt_of_mul_lt_mul_right hlong hz.le
  have hnz : (c + 1) * z ≤ z * n := by nlinarith
  have hupper : y * m ≤ c * (y + 1) + e - 1 + 2 * (y - 1) := by omega
  have hlower : (c - 1) * z + 2 * g ≤ y * m := by linarith
  rcases he with rfl | ⟨he, hce⟩
  · rcases hratio with ⟨hyz, rfl⟩ | ⟨hyz, hgy'⟩
    · have hmc : 2 * c ≤ m := by
        have : g * (2 * c) ≤ g * m := by nlinarith
        exact le_of_mul_le_mul_left this hg
      nlinarith
    · rcases hc.eq_or_lt with rfl | hc
      · have hm3 : m < 4 := lt_of_mul_lt_mul_left (by linarith : y * m < y * 4) (by omega)
        nlinarith
      · nlinarith
  · have hyz : 2 * y ≤ z := by rcases hratio with ⟨h, -⟩ | ⟨h, -⟩ <;> omega
    have hlonger := mul_le_mul_of_nonneg_left hyz (show 0 ≤ c - 1 by omega)
    have hshorter := mul_le_mul_of_nonneg_left hy (show 0 ≤ c - 4 by omega)
    linarith

end IsExtended

end Charting
