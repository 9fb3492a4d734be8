import Charting.Data.Predicate
import Charting.Proofs.Numeric.Comparison
import Charting.Proofs.Success
import Charting.Proofs.Time.Numerals

/-!
# Comparing three values

Any two values are compared in a way of their own: as times, as numbers or as texts
(`Value.compare?_eq`).  Each of the three ways is a preorder, but three values may be compared in
different ways, and then they need not be in any order (`twisted`).  They are if one of them is a
number, since no text reads both as a number and as a date; then all that is lost is the part of the
numbers below a millisecond (`Value.isLE_trans`).  What this means for the rows in a range is said by
`comparisons_agree`.
-/

namespace Charting

/-! ## Ways to compare -/

/-- A comparison by which those elements are ordered that it is defined for. -/
structure IsPreorder {α : Type} (cmp : α → α → Option Ordering) : Prop where
  /-- It is turned around with its sides. -/
  swap (a b : α) : cmp b a = (cmp a b).map Ordering.swap
  /-- What is less or equal to something less or equal is less or equal. -/
  isLE_trans {a b c : α} : (cmp a b).any (·.isLE) = true → (cmp b c).any (·.isLE) = true →
    (cmp a c).any (·.isLE) = true

/-- A comparison of what elements read as. -/
def compareBy {α β : Type} (read? : β → Option α) (cmp : α → α → Option Ordering) (v w : β) :
    Option Ordering :=
  (read? v).bind fun x ↦ (read? w).bind (cmp x)

theorem IsPreorder.compareBy {α β : Type} {cmp : α → α → Option Ordering} (h : IsPreorder cmp)
    (read? : β → Option α) : IsPreorder (compareBy read? cmp) where
  swap v w := by
    unfold Charting.compareBy
    cases hv : read? v <;> cases hw : read? w
    case some.some x y => exact h.swap x y
    all_goals rfl
  isLE_trans {u v w} huv hvw := by
    unfold Charting.compareBy at *
    rcases hu : read? u with _ | x
    · rw [hu] at huv
      cases huv
    rcases hv : read? v with _ | y
    · rw [hv] at hvw
      cases hvw
    rcases hw : read? w with _ | z
    · rw [hv, hw] at hvw
      cases hvw
    rw [hu, hv] at huv
    rw [hv, hw] at hvw
    exact h.isLE_trans huv hvw

/-- A total comparison. -/
theorem isPreorder_compare {α : Type} [Ord α] [Std.TransOrd α] :
    IsPreorder fun a b : α ↦ some (compare a b) where
  swap _ _ := congrArg some Std.OrientedCmp.eq_swap
  isLE_trans hab hbc := Std.TransCmp.isLE_trans hab hbc

namespace Value

/-- What two values are compared as. -/
inductive Reading where
  /-- Times. -/
  | time
  /-- Numbers. -/
  | number
  /-- Texts. -/
  | text

variable {R : Type} [Scalar R] {a b c v w : Value R}

/-- Values that are numbers, not only read as such. -/
def IsNumber (v : Value R) : Prop := ∃ x, v = number x

/-- The text of a value that is one. -/
def toText? : Value R → Option String
  | string s => some s
  | _ => none

/-- The comparison of two values as times, numbers or texts. -/
def compareAs : Reading → Value R → Value R → Option Ordering
  | .time => compareBy toTime? fun s t ↦ some (compare s t)
  | .number => compareBy toNumber? Scalar.compare?
  | .text => compareBy toText? fun s t ↦ some (compare s t)

theorem isPreorder_compareAs [LawfulComparison R] (r : Reading) :
    IsPreorder (compareAs r : Value R → Value R → Option Ordering) := by
  cases r with
  | time => exact isPreorder_compare.compareBy _
  | number =>
      refine IsPreorder.compareBy ⟨Scalar.compare?_swap, fun hab hbc ↦ ?_⟩ _
      rw [Scalar.isLE_compare?_iff] at *
      exact LawfulScalar.le_trans hab hbc
  | text => exact isPreorder_compare.compareBy _

/-- Two values are compared as times if one of them is a time, else as numbers if both read as
numbers, and else as texts. -/
def reading : Value R → Value R → Reading
  | time _, _ => .time
  | _, time _ => .time
  | v, w => if v.toNumber?.isSome && w.toNumber?.isSome then .number else .text

theorem compare?_eq (v w : Value R) : v.compare? w = compareAs (reading v w) v w := by
  cases v <;> cases w
  case number.string x s | string.number s x =>
    cases hs : (Scalar.read? (trimBlanks s.toList) : Option R) <;>
      simp [compare?, reading, compareAs, compareBy, toNumber?, hs, toText?]
  case string.string s t =>
    cases hs : (Scalar.read? (trimBlanks s.toList) : Option R) <;>
      cases ht : (Scalar.read? (trimBlanks t.toList) : Option R) <;>
        simp [compare?, reading, compareAs, compareBy, toNumber?, hs, ht, toText?]
  case time.number | time.string | number.time | string.time => exact Option.map_eq_bind
  case string.null => simp [compare?, reading, compareAs, compareBy, toNumber?, toText?]
  all_goals rfl

theorem reading_comm (v w : Value R) : reading w v = reading v w := by
  cases v <;> cases w <;> simp [reading, and_comm]

/-- A comparison is turned around with its sides. -/
theorem compare?_swap [LawfulComparison R] (v w : Value R) :
    w.compare? v = (v.compare? w).map Ordering.swap := by
  rw [compare?_eq, compare?_eq, reading_comm, (isPreorder_compareAs _).swap]

/-! ## Three values -/

/-- Each two of three values are compared as the same. -/
def ReadAlike (a b c : Value R) : Prop :=
  reading a b = reading b c ∧ reading b c = reading a c

theorem ReadAlike.of_swapped (h : ReadAlike b a c) : ReadAlike a b c :=
  ⟨(reading_comm b a).trans (h.1.trans h.2), h.2.symm⟩

theorem ReadAlike.of_rotated (h : ReadAlike c a b) : ReadAlike a b c :=
  ⟨h.2.trans (reading_comm b c), (reading_comm c b).trans
    (h.2.symm.trans (h.1.symm.trans (reading_comm a c)))⟩

theorem isLE_trans_of_readAlike [LawfulComparison R] (h : ReadAlike a b c)
    (hab : (a.compare? b).any (·.isLE) = true) (hbc : (b.compare? c).any (·.isLE) = true) :
    (a.compare? c).any (·.isLE) = true := by
  rw [compare?_eq] at *
  rw [h.1, h.2] at hab
  rw [h.2] at hbc
  exact (isPreorder_compareAs _).isLE_trans hab hbc

/-- Values other than times that read as numbers. -/
inductive ReadsNumber : Value R → Prop
  /-- A number. -/
  | number (x : R) : ReadsNumber (number x)
  /-- A text that reads as one. -/
  | text {s : String} (reads : (string s : Value R).toNumber?.isSome = true) :
      ReadsNumber (string s)

theorem reading_of_readsNumber (hv : v.ReadsNumber) (hw : w.ReadsNumber) :
    reading v w = .number := by
  have hsome {u : Value R} (hu : u.ReadsNumber) : u.toNumber?.isSome = true := by
    cases hu with
    | number x => rfl
    | text reads => exact reads
  have hv' := hsome hv
  have hw' := hsome hw
  cases hv <;> cases hw <;> simp only [reading, hv', hw', Bool.and_self, if_true]

/-- What compares with a number reads as one or is a time. -/
theorem readsNumber_or_of_number {x : R} (h : ((number x).compare? v).isSome = true) :
    v.ReadsNumber ∨ ∃ t, v = time t := by
  cases v with
  | null => cases h
  | number y => exact .inl (.number y)
  | time t => exact .inr ⟨t, rfl⟩
  | string s =>
      rw [compare?_eq] at h
      cases hs : (string s : Value R).toNumber? with
      | some y => exact .inl (.text (hs ▸ rfl))
      | none => simp [reading, hs, compareAs, compareBy, toText?] at h

/-- Of what reads as a number, nothing but a number compares with a time. -/
theorem isNumber_of_time {t : Int} (hv : v.ReadsNumber) (h : ((time t).compare? v).isSome = true) :
    v.IsNumber := by
  rcases hv with x | @⟨s, hread⟩
  · exact ⟨x, rfl⟩
  · obtain ⟨o, ho⟩ := Option.isSome_iff_exists.mp h
    obtain ⟨t', hdate, -⟩ := Option.map_eq_some_iff.mp ho
    have hnone : Numeral.read? (trimBlanks s.toList) = none := Timestamp.numeral_eq_none hdate
    rw [toNumber?, Scalar.read?, hnone] at hread
    cases hread

/-- Two numbers and a time. -/
inductive MixesNumbers : Value R → Value R → Value R → Prop
  /-- The time comes first. -/
  | timeFirst (t : Int) (x y : R) : MixesNumbers (time t) (number x) (number y)
  /-- The time stands between the numbers. -/
  | timeBetween (x : R) (t : Int) (y : R) : MixesNumbers (number x) (time t) (number y)
  /-- The time comes last. -/
  | timeLast (x y : R) (t : Int) : MixesNumbers (number x) (number y) (time t)

section Number

variable [LawfulComparison R]

/-- Two values that compare with a number are compared like it, or they are a number and a time. -/
theorem readAlike_or_of_number {x : R} (hv : ((number x).compare? v).isSome = true)
    (hw : ((number x).compare? w).isSome = true) (hvw : (v.compare? w).isSome = true) :
    ReadAlike (number x) v w ∨
      ∃ y t, (v = number y ∧ w = time t) ∨ (v = time t ∧ w = number y) := by
  rcases readsNumber_or_of_number hv with hv | ⟨t, rfl⟩ <;>
    rcases readsNumber_or_of_number hw with hw | ⟨t', rfl⟩
  · refine .inl ⟨?_, ?_⟩ <;>
      rw [reading_of_readsNumber hv hw, reading_of_readsNumber (.number x) ‹_›]
  · rw [compare?_swap, Option.isSome_map] at hvw
    obtain ⟨y, rfl⟩ := isNumber_of_time hv hvw
    exact .inr ⟨y, t', .inl ⟨rfl, rfl⟩⟩
  · obtain ⟨y, rfl⟩ := isNumber_of_time hw hvw
    exact .inr ⟨y, t, .inr ⟨rfl, rfl⟩⟩
  · exact .inl ⟨rfl, rfl⟩

/-- If one of three values that compare is a number, they are compared as the same or are two
numbers and a time. -/
theorem readAlike_or_mixesNumbers (hnumber : a.IsNumber ∨ b.IsNumber ∨ c.IsNumber)
    (hab : (a.compare? b).isSome = true) (hbc : (b.compare? c).isSome = true)
    (hac : (a.compare? c).isSome = true) : ReadAlike a b c ∨ MixesNumbers a b c := by
  have hswap {v w : Value R} (h : (v.compare? w).isSome = true) : (w.compare? v).isSome = true := by
    rwa [compare?_swap, Option.isSome_map]
  rcases hnumber with ⟨x, rfl⟩ | ⟨x, rfl⟩ | ⟨x, rfl⟩
  · rcases readAlike_or_of_number hab hac hbc with h | ⟨y, t, ⟨rfl, rfl⟩ | ⟨rfl, rfl⟩⟩
    · exact .inl h
    · exact .inr (.timeLast x y t)
    · exact .inr (.timeBetween x t y)
  · rcases readAlike_or_of_number (hswap hab) hbc hac with h | ⟨y, t, ⟨rfl, rfl⟩ | ⟨rfl, rfl⟩⟩
    · exact .inl h.of_swapped
    · exact .inr (.timeLast y x t)
    · exact .inr (.timeFirst t x y)
  · rcases readAlike_or_of_number (hswap hac) (hswap hbc) hab with h | ⟨y, t, ⟨rfl, rfl⟩ | ⟨rfl, rfl⟩⟩
    · exact .inl h.of_rotated
    · exact .inr (.timeBetween y t x)
    · exact .inr (.timeFirst t y x)

end Number

/-! ## Numbers cut to milliseconds -/

theorem compare?_number_time (x : R) (t : Int) : (number x).compare? (time t) =
    if Scalar.isFinite x = true then some (compare (Scalar.toInt64 x) t) else none := by
  change (if Scalar.isFinite x = true then some (Scalar.toInt64 x) else none).map _ = _
  split <;> rfl

theorem compare?_time_number (t : Int) (x : R) : (time t).compare? (number x) =
    if Scalar.isFinite x = true then some (compare t (Scalar.toInt64 x)) else none := by
  change (if Scalar.isFinite x = true then some (Scalar.toInt64 x) else none).map _ = _
  split <;> rfl

theorem isLE_number_time_iff {x : R} {t : Int} :
    ((number x).compare? (time t)).any (·.isLE) = true ↔
      Scalar.isFinite x = true ∧ Scalar.toInt64 x ≤ t := by
  rw [compare?_number_time]
  split <;> simp_all [Std.isLE_compare]

theorem isLE_time_number_iff {t : Int} {x : R} :
    ((time t).compare? (number x)).any (·.isLE) = true ↔
      Scalar.isFinite x = true ∧ t ≤ Scalar.toInt64 x := by
  rw [compare?_time_number]
  split <;> simp_all [Std.isLE_compare]

/-- Only finite numbers compare with a time. -/
theorem isFinite_of_time {t : Int} {x : R} (h : ((time t).compare? (number x)).isSome = true) :
    Scalar.isFinite x = true := by
  rw [compare?_time_number] at h
  by_contra hx
  rw [if_neg hx] at h
  cases h

/-- A time between two numbers that both are cut to it. -/
structure IsCut (a b c : Value R) : Prop where
  /-- The first value is a number. -/
  isNumber_left : a.IsNumber
  /-- The second one is a time. -/
  isTime : ∃ t, b = time t
  /-- The third one is a number. -/
  isNumber_right : c.IsNumber
  /-- The first number is cut to the time. -/
  left_eq : a.compare? b = some .eq
  /-- So is the second one. -/
  eq_right : b.compare? c = some .eq

variable [LawfulComparison R]

theorem isLE_trans_of_mixesNumbers (h : MixesNumbers a b c) (hcut : ¬IsCut a b c)
    (hab : (a.compare? b).any (·.isLE) = true) (hbc : (b.compare? c).any (·.isLE) = true)
    (hac : (a.compare? c).isSome = true) : (a.compare? c).any (·.isLE) = true := by
  cases h with
  | timeFirst t x y =>
      obtain ⟨hx, htx⟩ := isLE_time_number_iff.mp hab
      have hxy : x ≤ y := Scalar.isLE_compare?_iff.mp hbc
      have hy : Scalar.isFinite y = true := isFinite_of_time hac
      exact isLE_time_number_iff.mpr ⟨hy, htx.trans (LawfulComparison.toInt64_le_toInt64 hx hy hxy)⟩
  | timeLast x y t =>
      have hxy : x ≤ y := Scalar.isLE_compare?_iff.mp hab
      obtain ⟨hy, hyt⟩ := isLE_number_time_iff.mp hbc
      have hx : Scalar.isFinite x = true := by
        rw [compare?_swap, Option.isSome_map] at hac
        exact isFinite_of_time hac
      exact isLE_number_time_iff.mpr ⟨hx, (LawfulComparison.toInt64_le_toInt64 hx hy hxy).trans hyt⟩
  | timeBetween x t y =>
      obtain ⟨hx, hxt⟩ := isLE_number_time_iff.mp hab
      obtain ⟨hy, hty⟩ := isLE_time_number_iff.mp hbc
      rcases Scalar.isSome_compare?_iff.mp hac with hxy | hyx
      · exact Scalar.isLE_compare?_iff.mpr hxy
      · -- The integers that the numbers are cut to are in the same order, so both are the time.
        have hle := LawfulComparison.toInt64_le_toInt64 hy hx hyx
        refine absurd ⟨⟨x, rfl⟩, ⟨t, rfl⟩, ⟨y, rfl⟩, ?_, ?_⟩ hcut
        · rw [compare?_number_time, if_pos hx, compare_eq_iff_eq.mpr (by omega)]
        · rw [compare?_time_number, if_pos hy, compare_eq_iff_eq.mpr (by omega)]

/-! ## Three values that fit together -/

/-- Three values each two of which are compared as the same, or one of which is a number. -/
def FitTogether (a b c : Value R) : Prop :=
  ReadAlike a b c ∨ a.IsNumber ∨ b.IsNumber ∨ c.IsNumber

/-- Less or equal is transitive for values that fit together, if the fractions of numbers are not
all that tells them apart. -/
theorem isLE_trans (h : FitTogether a b c) (hcut : ¬IsCut a b c)
    (hab : (a.compare? b).any (·.isLE) = true) (hbc : (b.compare? c).any (·.isLE) = true)
    (hac : (a.compare? c).isSome = true) : (a.compare? c).any (·.isLE) = true := by
  have hsome {v w : Value R} (hvw : (v.compare? w).any (·.isLE) = true) :
      (v.compare? w).isSome = true := by
    obtain ⟨o, ho, -⟩ := (Option.any_eq_true _ _).mp hvw
    rw [ho]
    rfl
  rcases h with h | hnumber
  · exact isLE_trans_of_readAlike h hab hbc
  rcases readAlike_or_mixesNumbers hnumber (hsome hab) (hsome hbc) hac with h | h
  · exact isLE_trans_of_readAlike h hab hbc
  · exact isLE_trans_of_mixesNumbers h hcut hab hbc hac

theorem any_isGE_compare? (v w : Value R) :
    (v.compare? w).any (·.isGE) = (w.compare? v).any (·.isLE) := by
  rw [compare?_swap v w, Option.any_map]
  congr 1
  funext o
  exact Ordering.isLE_swap.symm

/-- What is not below a greater bound is not below a lesser one. -/
theorem isGE_of_lt {lo lo' : Value R} (hlt : lo.compare? lo' = some .lt)
    (h : FitTogether lo lo' v) (hlo : (v.compare? lo).isSome = true)
    (hlo' : (v.compare? lo').any (·.isGE) = true) : (v.compare? lo).any (·.isGE) = true := by
  rw [any_isGE_compare?] at *
  rw [compare?_swap, Option.isSome_map] at hlo
  refine isLE_trans h (fun hcut ↦ ?_) (by rw [hlt]; rfl) hlo' hlo
  cases hlt.symm.trans hcut.left_eq

end Value

/-! ## Ranges -/

/-- A row lies in a range if its value is not below the lower bound and not above the upper one. -/
theorem Predicate.eval_range_iff {R : Type} [Scalar R] {data : Dataset R} {row : Nat}
    {params : ParamLookup R} {field : String} {min max : Operand R} :
    (range field min max).eval data row params = .ok true ↔
      ∃ v lo hi, cellOf data row field = .ok v ∧ min.resolve params = .ok lo ∧
        max.resolve params = .ok hi ∧ (v.compare? lo).any (·.isGE) = true ∧
        (v.compare? hi).any (·.isLE) = true := by
  rw [eval]
  simp only [bind_ok_iff, CompareOp.holds_ge, CompareOp.holds_le, Except.ok.injEq,
    Bool.and_eq_true]
  grind

/-- A comparison is turned around with its sides.  Less or equal is transitive for values that fit
together, unless two numbers are cut to a time between them.  So a greater lower bound lets no row
into a range that the lesser one excluded, if the value of the row fits together with the bounds. -/
theorem comparisons_agree {R : Type} [Scalar R] [LawfulComparison R] :
    (∀ a b : Value R, b.compare? a = (a.compare? b).map Ordering.swap) ∧
    (∀ a b c : Value R, a.FitTogether b c → ¬a.IsCut b c → (a.compare? c).isSome = true →
      (a.compare? b).any (·.isLE) = true → (b.compare? c).any (·.isLE) = true →
      (a.compare? c).any (·.isLE) = true) ∧
    ∀ (data : Dataset R) (row : Nat) (params : ParamLookup R) (field : String)
      (min min' max : Operand R) (lo lo' v : Value R),
      min.resolve params = .ok lo → min'.resolve params = .ok lo' →
      lo.compare? lo' = some .lt → Predicate.cellOf data row field = .ok v →
      (v.compare? lo).isSome = true → lo.FitTogether lo' v →
      (Predicate.range field min' max).eval data row params = .ok true →
      (Predicate.range field min max).eval data row params = .ok true := by
  refine ⟨Value.compare?_swap, fun a b c hfit hcut hac hab hbc ↦
    Value.isLE_trans hfit hcut hab hbc hac, ?_⟩
  intro data row params field min min' max lo lo' v hmin hmin' hlt hcell hlo hfit hrange
  obtain ⟨w, lo'', hi, hcell', hmin'', hmax, hge, hle⟩ := Predicate.eval_range_iff.mp hrange
  obtain rfl : v = w := Except.ok.inj (hcell.symm.trans hcell')
  obtain rfl : lo' = lo'' := Except.ok.inj (hmin'.symm.trans hmin'')
  exact Predicate.eval_range_iff.mpr
    ⟨v, lo, hi, hcell, hmin, hmax, Value.isGE_of_lt hlt hfit hlo hge, hle⟩

/-! ### Some shelves

The mark of a shelf is a text, and only some of the marks are numbers. -/

/-- A shelf with its mark. -/
def shelves : Dataset Float := ⟨[.untyped "mark"], [⟨0, [.string "10"]⟩], 1⟩

/-- A time is compared with numbers as these are with each other, and a shelf from five on is one
from two on. -/
theorem comparisons_agree_shelves :
    let a : Value Float := .time 0
    let b : Value Float := .number 0.5
    let c : Value Float := .number 2.5
    let lo : Value Float := .string "2"
    let lo' : Value Float := .number 5
    let v : Value Float := .string "10"
    a.FitTogether b c ∧ ¬a.IsCut b c ∧ (a.compare? c).isSome = true ∧
      (a.compare? b).any (·.isLE) = true ∧ (b.compare? c).any (·.isLE) = true ∧
      (a.compare? c).any (·.isLE) = true ∧
      lo.compare? lo' = some .lt ∧ (v.compare? lo).isSome = true ∧ lo.FitTogether lo' v ∧
      (Predicate.range "mark" (.value lo') (.value (.number 20))).eval shelves 0 (fun _ ↦ none) =
        .ok true ∧
      (Predicate.range "mark" (.value lo) (.value (.number 20))).eval shelves 0 (fun _ ↦ none) =
        .ok true := by
  intro a b c lo lo' v
  obtain ⟨-, htrans, hrange⟩ := comparisons_agree (R := Float)
  have hfit : a.FitTogether b c := .inr (.inr (.inl ⟨0.5, rfl⟩))
  have hcut : ¬a.IsCut b c := fun h ↦ nomatch h.isTime
  have hac : (a.compare? c).isSome = true := by decide +kernel
  have hab : (a.compare? b).any (·.isLE) = true := by decide +kernel
  have hbc : (b.compare? c).any (·.isLE) = true := by decide +kernel
  have hlt : lo.compare? lo' = some .lt := by decide +kernel
  have hlo : (v.compare? lo).isSome = true := by decide +kernel
  have hfit' : lo.FitTogether lo' v := .inr (.inr (.inl ⟨5, rfl⟩))
  have hcell : Predicate.cellOf shelves 0 "mark" = .ok v := rfl
  have hin : (Predicate.range "mark" (.value lo') (.value (.number 20))).eval shelves 0
      (fun _ ↦ none) = .ok true :=
    Predicate.eval_range_iff.mpr ⟨v, lo', .number 20, hcell, rfl, rfl, by decide +kernel,
      by decide +kernel⟩
  exact ⟨hfit, hcut, hac, hab, hbc, htrans a b c hfit hcut hac hab hbc, hlt, hlo, hfit', hin,
    hrange shelves 0 _ "mark" _ _ _ lo lo' v rfl rfl hlt hcell hlo hfit' hin⟩

/-- Three values in no order: texts of which two are numbers, dates on either side of a time, and
numbers within the same millisecond. -/
def twisted : List (Value Float × Value Float × Value Float) :=
  [(.string "10", .string "1a", .string "9"),
    (.string "2020/01/01", .time 1583020800000, .string "2020-06-01"),
    (.number 0.5, .time 0, .number 0.2)]

/-- In general neither is less or equal transitive, nor does a greater lower bound let in no other
rows. -/
theorem not_forall_comparisons_agree :
    (∀ p ∈ twisted, (p.1.compare? p.2.1).any (·.isLE) = true ∧
      (p.2.1.compare? p.2.2).any (·.isLE) = true ∧ p.1.compare? p.2.2 = some .gt) ∧
    (¬∀ a b c : Value Float, (a.compare? c).isSome = true →
      (a.compare? b).any (·.isLE) = true → (b.compare? c).any (·.isLE) = true →
      (a.compare? c).any (·.isLE) = true) ∧
    ¬∀ (data : Dataset Float) (row : Nat) (params : ParamLookup Float) (field : String)
      (min min' max : Operand Float) (lo lo' v : Value Float),
      min.resolve params = .ok lo → min'.resolve params = .ok lo' →
      lo.compare? lo' = some .lt → Predicate.cellOf data row field = .ok v →
      (v.compare? lo).isSome = true →
      (Predicate.range field min' max).eval data row params = .ok true →
      (Predicate.range field min max).eval data row params = .ok true := by
  have htwisted : ∀ p ∈ twisted, (p.1.compare? p.2.1).any (·.isLE) = true ∧
      (p.2.1.compare? p.2.2).any (·.isLE) = true ∧ p.1.compare? p.2.2 = some .gt := by
    decide +kernel
  refine ⟨htwisted, fun h ↦ ?_, fun h ↦ ?_⟩
  · obtain ⟨hab, hbc, hac⟩ := htwisted _ List.mem_cons_self
    have := h _ _ _ (by rw [hac]; rfl) hab hbc
    rw [hac] at this
    cases this
  · have hin : (Predicate.range "mark" (.value (.string "9")) (.value (.string "z"))).eval shelves 0
        (fun _ ↦ none) = .ok true :=
      Predicate.eval_range_iff.mpr ⟨.string "10", .string "9", .string "z", rfl, rfl, rfl,
        by decide +kernel, by decide +kernel⟩
    obtain ⟨v, lo, hi, hcell, hlo, -, hge, -⟩ := Predicate.eval_range_iff.mp <|
      h shelves 0 _ "mark" (.value (.string "1a")) _ _ (.string "1a") (.string "9") (.string "10")
        rfl rfl (by decide +kernel) rfl (by decide +kernel) hin
    obtain rfl : .string "10" = v := Except.ok.inj hcell
    obtain rfl : .string "1a" = lo := Except.ok.inj hlo
    exact absurd hge (by decide +kernel)

end Charting
