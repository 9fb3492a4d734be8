import Charting.Document.Filter
import Charting.Numeric.Exact
import Charting.Proofs.Json.Canonical
import Charting.Proofs.Success

/-!
# What filters mean

`Filter.Yields` says what the outcome of a filter on a row is, by rules about the filter as it is
written.  A filter is turned into a predicate before it is run, and a predicate has no disjunction:
`Filter.yields_iff_eval` says that the predicate has the outcome of the filter all the same, be it a
truth value or an error.
-/

namespace Charting

namespace Filter

variable {R : Type} [Scalar R]

/-! ## Tests of a field -/

/-- The value of an operand: an object that names a parameter stands for the parameter, and
everything else for itself. -/
def operandValue (params : ParamLookup R) (j : Json R) : Except DataError (Value R) :=
  match j.get? "param" with
  | some (.string name) =>
    match params name with
    | some v => .ok v
    | none => .error (.unknownParam name)
  | _ => .ok (.ofJson j)

/-- Whether a value is met by another one: they compare as equal, or are the same. -/
def IsMet (v w : Value R) : Prop := v.compare? w = some .eq ∨ v == w

/-- The outcome of a search for a value among operands. -/
inductive Searches (params : ParamLookup R) (v : Value R) :
    List (Json R) → Except DataError Bool → Prop
  /-- A search that comes to the end has failed. -/
  | missed : Searches params v [] (.ok false)
  /-- A search ends with the first operand that is met. -/
  | met {j rest w} (hw : operandValue params j = .ok w) (h : IsMet v w) :
      Searches params v (j :: rest) (.ok true)
  /-- A search goes on after an operand that is not met. -/
  | next {j rest w r} (hw : operandValue params j = .ok w) (h : ¬ IsMet v w)
      (hrest : Searches params v rest r) : Searches params v (j :: rest) r
  /-- A search ends with an operand that has no value. -/
  | error {j rest e} (he : operandValue params j = .error e) :
      Searches params v (j :: rest) (.error e)

/-- A comparison and its operand are those of a filter: among the names of the filter that stand for
comparisons theirs is the first. -/
def IsFirstComparison (j : Json R) (op : CompareOp) (rhs : Json R) : Prop :=
  ∃ name, j.get? name = some rhs ∧ CompareOp.ofToken? name = some op ∧
    ∀ other, (j.get? other).isSome → (CompareOp.ofToken? other).isSome → name ≤ other

/-- The outcome of a test of a field that has the value `v`: of a search if there is one, else of a
range if there is one, else of a comparison. -/
inductive Tests (params : ParamLookup R) (j : Json R) (v : Value R) : Except DataError Bool → Prop
  /-- The value is searched for. -/
  | oneOf {items r} (h : j.get? "oneOf" = some (.array items)) (hr : Searches params v items r) :
      Tests params j v r
  /-- The value lies in a range to which both ends belong. -/
  | range {min max lo hi} (hone : j.get? "oneOf" = none)
      (h : j.get? "range" = some (.array [min, max])) (hlo : operandValue params min = .ok lo)
      (hhi : operandValue params max = .ok hi) :
      Tests params j v (.ok ((v.compare? lo).any (·.isGE) && (v.compare? hi).any (·.isLE)))
  /-- The lower end of a range has no value. -/
  | rangeMin {min max e} (hone : j.get? "oneOf" = none)
      (h : j.get? "range" = some (.array [min, max])) (he : operandValue params min = .error e) :
      Tests params j v (.error e)
  /-- The upper end of a range has no value. -/
  | rangeMax {min max lo e} (hone : j.get? "oneOf" = none)
      (h : j.get? "range" = some (.array [min, max])) (hlo : operandValue params min = .ok lo)
      (he : operandValue params max = .error e) : Tests params j v (.error e)
  /-- The value compares with an operand. -/
  | compare {op rhs w} (hone : j.get? "oneOf" = none) (hrange : j.get? "range" = none)
      (h : IsFirstComparison j op rhs) (hw : operandValue params rhs = .ok w) :
      Tests params j v (.ok (op.holds (v.compare? w)))
  /-- The operand of a comparison has no value. -/
  | compareError {op rhs e} (hone : j.get? "oneOf" = none) (hrange : j.get? "range" = none)
      (h : IsFirstComparison j op rhs) (he : operandValue params rhs = .error e) :
      Tests params j v (.error e)

/-! ## Filters -/

/-- A filter that does not combine others. -/
structure IsPlain (j : Json R) : Prop where
  /-- It is no conjunction. -/
  and_eq : j.get? "and" = none
  /-- It is no disjunction. -/
  or_eq : j.get? "or" = none
  /-- It is no negation. -/
  not_eq : j.get? "not" = none

mutual

/-- The outcome of a filter on a row. -/
inductive Yields (data : Dataset R) (row : Nat) (params : ParamLookup R) :
    Json R → Except DataError Bool → Prop
  /-- A conjunction goes on as long as its filters hold. -/
  | and {j items r} (h : j.get? "and" = some (.array items))
      (hr : YieldsInTurn data row params true items r) : Yields data row params j r
  /-- A disjunction goes on as long as its filters fail. -/
  | or {j items r} (hand : j.get? "and" = none) (h : j.get? "or" = some (.array items))
      (hr : YieldsInTurn data row params false items r) : Yields data row params j r
  /-- A negation turns the outcome of its filter around. -/
  | not {j k r} (hand : j.get? "and" = none) (hor : j.get? "or" = none)
      (h : j.get? "not" = some k) (hr : Yields data row params k r) :
      Yields data row params j (r.map (!·))
  /-- A field is tested. -/
  | test {j field v r} (hplain : IsPlain j) (hfield : j.get? "field" = some (.string field))
      (hv : Predicate.cellOf data row field = .ok v) (hr : Tests params j v r) :
      Yields data row params j r
  /-- A field is unknown. -/
  | unknown {j field e} (hplain : IsPlain j) (hfield : j.get? "field" = some (.string field))
      (he : Predicate.cellOf data row field = .error e) : Yields data row params j (.error e)

/-- The outcome of filters that are run in turn, as long as their outcome is `go`. -/
inductive YieldsInTurn (data : Dataset R) (row : Nat) (params : ParamLookup R) :
    Bool → List (Json R) → Except DataError Bool → Prop
  /-- All filters have been run. -/
  | done {go} : YieldsInTurn data row params go [] (.ok go)
  /-- The first filter lets the others be run. -/
  | next {go j rest r} (h : Yields data row params j (.ok go))
      (hrest : YieldsInTurn data row params go rest r) :
      YieldsInTurn data row params go (j :: rest) r
  /-- The first filter decides. -/
  | stop {go j rest r} (h : Yields data row params j r) (hr : r ≠ .ok go) :
      YieldsInTurn data row params go (j :: rest) r

end

/-! ## How filters are read -/

section Reading

omit [Scalar R] in
/-- A comparison that comes first in the order of names is the only one. -/
theorem IsFirstComparison.unique {j : Json R} {op op' : CompareOp} {rhs rhs' : Json R}
    (h : IsFirstComparison j op rhs) (h' : IsFirstComparison j op' rhs') :
    op = op' ∧ rhs = rhs' := by
  obtain ⟨name, hrhs, hop, hfirst⟩ := h
  obtain ⟨name', hrhs', hop', hfirst'⟩ := h'
  obtain rfl : name = name' := String.le_antisymm
    (hfirst name' (by simp [hrhs']) (by simp [hop']))
    (hfirst' name (by simp [hrhs]) (by simp [hop]))
  exact ⟨Option.some.inj (hop.symm.trans hop'), Option.some.inj (hrhs.symm.trans hrhs')⟩

theorem readMembers_eq (members : List (String × Json R)) :
    readMembers members = members.map fun m ↦ ⟨m.1, m.2, ofJson m.2, listOfJson m.2⟩ := by
  induction members with
  | nil => rfl
  | cons m members ih => rw [readMembers, ih, List.map_cons]

/-- The members of a filter are found by their names. -/
theorem member?_readMembers (members : List (String × Json R)) (name : String) :
    member? (readMembers members) name =
      (members.lookup name).map fun j ↦ ⟨name, j, ofJson j, listOfJson j⟩ := by
  rw [member?, readMembers_eq]
  induction members with
  | nil => rfl
  | cons m members ih =>
      rw [List.map_cons, List.find?_cons, List.lookup_cons, ih]
      by_cases h : m.1 = name
      · subst h
        simp
      · have hne : (m.1 == name) = false := by simpa using h
        have hne' : (name == m.1) = false := by simpa using Ne.symm h
        simp only [hne, hne']

/-- The comparison that is read is the first in the order of names. -/
theorem isFirstComparison_of_comparison? {members : List (String × Json R)} {op : CompareOp}
    {rhs : Json R} (hnames : members.Pairwise (·.1 < ·.1))
    (h : comparison? (readMembers members) = some (op, rhs)) :
    IsFirstComparison (.object members) op rhs := by
  rw [comparison?, readMembers_eq, List.findSome?_map] at h
  obtain ⟨before, m, after, rfl, hm, hbefore⟩ := List.findSome?_eq_some_iff.mp h
  obtain ⟨name, k⟩ := m
  simp only [Function.comp_apply, Option.ite_none_left_eq_some, Option.map_eq_some_iff,
    Prod.mk.injEq] at hm
  obtain ⟨-, op', hop, rfl, rfl⟩ := hm
  obtain ⟨-, hafter, hacross⟩ := List.pairwise_append.mp hnames
  refine ⟨name, Json.lookup_of_mem hnames List.mem_append_cons_self, hop, fun other hmem hcmp ↦ ?_⟩
  obtain ⟨x, hx⟩ := Option.isSome_iff_exists.mp hmem
  rcases List.mem_append.mp (Json.mem_of_lookup hx) with hx | hx
  · -- A name that comes before is not that of a comparison.
    have hnone := hbefore _ hx
    simp only [Function.comp_apply, ite_eq_left_iff, Option.map_eq_none_iff] at hnone
    by_cases hfield : other = "field"
    · subst hfield
      cases hcmp
    · rw [hnone hfield] at hcmp
      cases hcmp
  · rcases List.mem_cons.mp hx with heq | hx
    · exact (Prod.mk.inj heq).1 ▸ String.le_refl _
    · exact String.not_lt.mp (String.lt_asymm ((List.pairwise_cons.mp hafter).1 _ hx))

/-- What is read of a filter. -/
inductive IsReadAs (j : Json R) : Predicate R → Prop
  /-- A conjunction. -/
  | and {items ps} (h : j.get? "and" = some (.array items)) (hps : readItems items = .ok ps) :
      IsReadAs j (.and ps)
  /-- A disjunction. -/
  | or {items ps} (hand : j.get? "and" = none) (h : j.get? "or" = some (.array items))
      (hps : readItems items = .ok ps) : IsReadAs j (.or ps)
  /-- A negation. -/
  | not {k p} (hand : j.get? "and" = none) (hor : j.get? "or" = none) (h : j.get? "not" = some k)
      (hp : ofJson k = .ok p) : IsReadAs j (.not p)
  /-- A search. -/
  | oneOf {field items} (hplain : IsPlain j) (hfield : j.get? "field" = some (.string field))
      (h : j.get? "oneOf" = some (.array items)) : IsReadAs j (.oneOf field (items.map .ofJson))
  /-- A range. -/
  | range {field min max} (hplain : IsPlain j) (hfield : j.get? "field" = some (.string field))
      (hone : j.get? "oneOf" = none) (h : j.get? "range" = some (.array [min, max])) :
      IsReadAs j (.range field (.ofJson min) (.ofJson max))
  /-- A comparison. -/
  | compare {field op rhs} (hplain : IsPlain j) (hfield : j.get? "field" = some (.string field))
      (hone : j.get? "oneOf" = none) (hrange : j.get? "range" = none)
      (h : IsFirstComparison j op rhs) : IsReadAs j (.compare field op (.ofJson rhs))

/-- A filter without connectives is read as a test of its field. -/
theorem isReadAs_of_ofField {members : List (String × Json R)} {p : Predicate R}
    (hplain : IsPlain (.object members)) (hnames : members.Pairwise (·.1 < ·.1))
    (h : ofField (readMembers members) = .ok p) : IsReadAs (.object members) p := by
  rw [ofField] at h
  simp only [member?_readMembers] at h
  split at h
  case h_2 => cases h
  case h_1 field hfield =>
    obtain ⟨m, hm, hstring⟩ := Option.bind_eq_some_iff.mp hfield
    obtain ⟨k, hk, rfl⟩ := Option.map_eq_some_iff.mp hm
    obtain ⟨s, rfl⟩ : ∃ s, k = .string s := by
      cases k with
      | string s => exact ⟨s, rfl⟩
      | _ => cases hstring
    obtain rfl : s = field := Option.some.inj hstring
    cases hone : members.lookup "oneOf" with
    | some k =>
        simp only [hone, Option.map_some] at h
        split at h
        case h_1 items =>
          cases h
          exact .oneOf hplain hk hone
        case h_2 => cases h
    | none =>
        cases hrange : members.lookup "range" with
        | some k =>
            simp only [hone, hrange, Option.map_some, Option.map_none] at h
            split at h
            case h_1 min max =>
              cases h
              exact .range hplain hk hone hrange
            case h_2 => cases h
        | none =>
            simp only [hone, hrange, Option.map_none] at h
            cases hcmp : comparison? (readMembers members) with
            | none =>
                rw [hcmp] at h
                cases h
            | some c =>
                rw [hcmp] at h
                cases h
                exact .compare hplain hk hone hrange (isFirstComparison_of_comparison? hnames hcmp)

/-- A list of filters is read item by item. -/
theorem exists_items_of_listOfJson {j : Json R} {ps : List (Predicate R)}
    (h : listOfJson j = .ok ps) : ∃ items, j = .array items ∧ readItems items = .ok ps := by
  cases j with
  | array items => exact ⟨items, rfl, by rwa [listOfJson] at h⟩
  | _ => simp [listOfJson] at h

theorem isReadAs_of_ofJson {j : Json R} {p : Predicate R} (hj : j.IsSorted) (h : ofJson j = .ok p) :
    IsReadAs j p := by
  cases j with
  | object members =>
      rw [ofJson, ofMembers] at h
      simp only [member?_readMembers] at h
      cases hand : members.lookup "and" with
      | some k =>
          simp only [hand, Option.map_some] at h
          obtain ⟨ps, hps, rfl⟩ := map_ok_iff.mp h
          obtain ⟨items, rfl, hps⟩ := exists_items_of_listOfJson hps
          exact .and hand hps
      | none =>
          cases hor : members.lookup "or" with
          | some k =>
              simp only [hand, hor, Option.map_some, Option.map_none] at h
              obtain ⟨ps, hps, rfl⟩ := map_ok_iff.mp h
              obtain ⟨items, rfl, hps⟩ := exists_items_of_listOfJson hps
              exact .or hand hor hps
          | none =>
              cases hnot : members.lookup "not" with
              | some k =>
                  simp only [hand, hor, hnot, Option.map_some, Option.map_none] at h
                  obtain ⟨p, hp, rfl⟩ := map_ok_iff.mp h
                  exact .not hand hor hnot hp
              | none =>
                  simp only [hand, hor, hnot, Option.map_none] at h
                  exact isReadAs_of_ofField ⟨hand, hor, hnot⟩ hj.names h
  | _ => simp [ofJson] at h

end Reading

/-! ## Evaluation -/

section Evaluation

variable {data : Dataset R} {row : Nat} {params : ParamLookup R} {j : Json R} {v : Value R}
  {r : Except DataError Bool}

theorem resolve_ofJson (j : Json R) :
    (Operand.ofJson j).resolve params = operandValue params j := by
  rw [Operand.ofJson, operandValue]
  cases j.get? "param" with
  | none => rfl
  | some k => cases k <;> rfl

theorem isMet_iff {w : Value R} : IsMet v w ↔ (v.compare? w == some .eq || v == w) = true := by
  simp [IsMet]

/-- The operands that have been read are searched in the same way. -/
theorem searches_iff {items : List (Json R)} :
    Searches params v items r ↔ Predicate.matchesAny params v (items.map .ofJson) = r := by
  induction items generalizing r with
  | nil =>
      constructor
      · rintro ⟨⟩
        rfl
      · rintro rfl
        exact .missed
  | cons j items ih =>
      rw [List.map_cons, Predicate.matchesAny, resolve_ofJson]
      constructor
      · intro h
        cases h with
        | met hw h => rw [hw]; exact if_pos (isMet_iff.mp h)
        | next hw h hrest =>
            rw [hw]
            exact (if_neg (mt isMet_iff.mpr h)).trans (ih.mp hrest)
        | error he => rw [he]; rfl
      · rintro rfl
        cases hw : operandValue params j with
        | error e => exact .error hw
        | ok w =>
            by_cases h : IsMet v w
            · rw [show (Except.ok w >>= _) = Except.ok true from if_pos (isMet_iff.mp h)]
              exact .met hw h
            · refine .next hw h (ih.mpr ?_)
              exact (if_neg (mt isMet_iff.mpr h)).symm

theorem tests_oneOf_iff {items : List (Json R)} (h : j.get? "oneOf" = some (.array items)) :
    Tests params j v r ↔ Searches params v items r := by
  constructor
  · intro ht
    cases ht with
    | oneOf h' hr =>
        obtain rfl := Json.array.inj (Option.some.inj (h.symm.trans h'))
        exact hr
    | range hone | rangeMin hone | rangeMax hone | compare hone | compareError hone =>
        cases h.symm.trans hone
  · exact .oneOf h

theorem tests_range_iff {min max : Json R} (hone : j.get? "oneOf" = none)
    (h : j.get? "range" = some (.array [min, max])) :
    Tests params j v r ↔
      (do
        let lo ← operandValue params min
        let hi ← operandValue params max
        .ok ((v.compare? lo).any (·.isGE) && (v.compare? hi).any (·.isLE))) = r := by
  constructor
  · intro ht
    cases ht with
    | oneOf h' => cases hone.symm.trans h'
    | range _ h' hlo hhi =>
        cases h.symm.trans h'
        rw [hlo, hhi]
        rfl
    | rangeMin _ h' he =>
        cases h.symm.trans h'
        rw [he]
        rfl
    | rangeMax _ h' hlo he =>
        cases h.symm.trans h'
        rw [hlo, he]
        rfl
    | compare _ hrange | compareError _ hrange => cases h.symm.trans hrange
  · rintro rfl
    cases hlo : operandValue params min with
    | error e => exact .rangeMin hone h hlo
    | ok lo =>
        cases hhi : operandValue params max with
        | error e => exact .rangeMax hone h hlo hhi
        | ok hi => exact .range hone h hlo hhi

theorem tests_compare_iff {op : CompareOp} {rhs : Json R} (hone : j.get? "oneOf" = none)
    (hrange : j.get? "range" = none) (h : IsFirstComparison j op rhs) :
    Tests params j v r ↔
      (do
        let w ← operandValue params rhs
        .ok (op.holds (v.compare? w))) = r := by
  constructor
  · intro ht
    cases ht with
    | oneOf h' => cases hone.symm.trans h'
    | range _ h' | rangeMin _ h' | rangeMax _ h' => cases hrange.symm.trans h'
    | compare _ _ h' hw =>
        obtain ⟨rfl, rfl⟩ := h.unique h'
        rw [hw]
        rfl
    | compareError _ _ h' he =>
        obtain ⟨rfl, rfl⟩ := h.unique h'
        rw [he]
        rfl
  · rintro rfl
    cases hw : operandValue params rhs with
    | error e => exact .compareError hone hrange h hw
    | ok w => exact .compare hone hrange h hw

/-- A field is tested in the same way by the predicate that has been read. -/
theorem yields_test_iff {field : String} (hplain : IsPlain j)
    (hfield : j.get? "field" = some (.string field)) {test : Value R → Except DataError Bool}
    (htest : ∀ v r, Tests params j v r ↔ test v = r) :
    Yields data row params j r ↔ (Predicate.cellOf data row field >>= test) = r := by
  constructor
  · intro h
    cases h with
    | and hand => cases hplain.and_eq.symm.trans hand
    | or _ hor => cases hplain.or_eq.symm.trans hor
    | not _ _ hnot => cases hplain.not_eq.symm.trans hnot
    | test _ hfield' hv hr =>
        cases hfield.symm.trans hfield'
        rw [hv]
        exact (htest _ _).mp hr
    | unknown _ hfield' he =>
        cases hfield.symm.trans hfield'
        rw [he]
        rfl
  · rintro rfl
    cases hv : Predicate.cellOf data row field with
    | error e => exact .unknown hplain hfield hv
    | ok v => exact .test hplain hfield hv ((htest v _).mpr rfl)

theorem yields_and_iff {items : List (Json R)} (h : j.get? "and" = some (.array items)) :
    Yields data row params j r ↔ YieldsInTurn data row params true items r := by
  constructor
  · intro hy
    cases hy with
    | and h' hr =>
        cases h.symm.trans h'
        exact hr
    | or hand | not hand => cases h.symm.trans hand
    | test hplain | unknown hplain => cases h.symm.trans hplain.and_eq
  · exact .and h

theorem yields_or_iff {items : List (Json R)} (hand : j.get? "and" = none)
    (h : j.get? "or" = some (.array items)) :
    Yields data row params j r ↔ YieldsInTurn data row params false items r := by
  constructor
  · intro hy
    cases hy with
    | and h' => cases hand.symm.trans h'
    | or _ h' hr =>
        cases h.symm.trans h'
        exact hr
    | not _ hor => cases h.symm.trans hor
    | test hplain | unknown hplain => cases h.symm.trans hplain.or_eq
  · exact .or hand h

theorem yields_not_iff {k : Json R} (hand : j.get? "and" = none) (hor : j.get? "or" = none)
    (h : j.get? "not" = some k) :
    Yields data row params j r ↔ ∃ r', Yields data row params k r' ∧ r'.map (!·) = r := by
  constructor
  · intro hy
    cases hy with
    | and h' => cases hand.symm.trans h'
    | or _ h' => cases hor.symm.trans h'
    | not _ _ h' hr =>
        cases h.symm.trans h'
        exact ⟨_, hr, rfl⟩
    | test hplain | unknown hplain => cases h.symm.trans hplain.not_eq
  · rintro ⟨r', hr', rfl⟩
    exact .not hand hor h hr'

/-- Whether a predicate has the same outcome as a filter. -/
def MeansSame (data : Dataset R) (row : Nat) (params : ParamLookup R) (j : Json R)
    (p : Predicate R) : Prop :=
  ∀ r, Yields data row params j r ↔ p.eval data row params = r

/-- Filters that are run in turn have the outcome of predicates that are run in turn. -/
theorem yieldsInTurn_iff {go : Bool} (run : List (Predicate R) → Except DataError Bool)
    (hnil : run [] = .ok go)
    (hcons : ∀ p ps, run (p :: ps) =
      p.eval data row params >>= fun b ↦ if b = go then run ps else .ok b)
    {items : List (Json R)} {ps : List (Predicate R)}
    (h : List.Forall₂ (MeansSame data row params) items ps) :
    YieldsInTurn data row params go items r ↔ run ps = r := by
  induction h generalizing r with
  | nil =>
      rw [hnil]
      constructor
      · rintro ⟨⟩
        rfl
      · rintro rfl
        exact .done
  | @cons j p items ps hjp _ ih =>
      rw [hcons]
      constructor
      · intro hy
        cases hy with
        | next hj hrest =>
            rw [(hjp _).mp hj]
            exact (if_pos rfl).trans (ih.mp hrest)
        | stop hj hr =>
            rw [(hjp _).mp hj]
            cases r with
            | error e => rfl
            | ok b => exact if_neg fun hb : b = go ↦ hr (congrArg _ hb)
      · rintro rfl
        cases hp : p.eval data row params with
        | error e => exact .stop ((hjp _).mpr hp) (by simp [bind, Except.bind])
        | ok b =>
            by_cases hb : b = go
            · subst hb
              exact .next ((hjp _).mpr hp) (ih.mpr (if_pos rfl).symm)
            · rw [show (Except.ok b >>= _) = Except.ok b from if_neg hb]
              exact .stop ((hjp _).mpr hp) (by simpa using hb)

/-- A conjunction goes on as long as its tests hold. -/
theorem eval_and_cons (p : Predicate R) (ps : List (Predicate R)) :
    (Predicate.and (p :: ps)).eval data row params =
      p.eval data row params >>= fun b ↦
        if b = true then (Predicate.and ps).eval data row params else .ok b := by
  rw [Predicate.eval, Predicate.eval, Predicate.evalAll]
  cases p.eval data row params with
  | error e => rfl
  | ok b => cases b <;> rfl

/-- A disjunction, which is run as the negation of a conjunction of negations, goes on as long as
its tests fail. -/
theorem eval_or_cons (p : Predicate R) (ps : List (Predicate R)) :
    (Predicate.or (p :: ps)).eval data row params =
      p.eval data row params >>= fun b ↦
        if b = false then (Predicate.or ps).eval data row params else .ok b := by
  rw [Predicate.or, Predicate.or, Predicate.eval, Predicate.eval, Predicate.eval, Predicate.eval,
    List.map_cons, Predicate.evalAll, Predicate.eval]
  cases p.eval data row params with
  | error e => rfl
  | ok b => cases b <;> rfl

theorem meansSame_oneOf {field : String} {items : List (Json R)} (hplain : IsPlain j)
    (hfield : j.get? "field" = some (.string field)) (h : j.get? "oneOf" = some (.array items)) :
    MeansSame data row params j (.oneOf field (items.map .ofJson)) := by
  intro r
  rw [Predicate.eval]
  exact yields_test_iff hplain hfield fun v r ↦ (tests_oneOf_iff h).trans searches_iff

theorem meansSame_range {field : String} {min max : Json R} (hplain : IsPlain j)
    (hfield : j.get? "field" = some (.string field)) (hone : j.get? "oneOf" = none)
    (h : j.get? "range" = some (.array [min, max])) :
    MeansSame data row params j (.range field (.ofJson min) (.ofJson max)) := by
  intro r
  rw [Predicate.eval, resolve_ofJson, resolve_ofJson]
  refine yields_test_iff hplain hfield fun v r ↦ (tests_range_iff hone h).trans ?_
  simp only [CompareOp.holds_ge, CompareOp.holds_le]

theorem meansSame_compare {field : String} {op : CompareOp} {rhs : Json R} (hplain : IsPlain j)
    (hfield : j.get? "field" = some (.string field)) (hone : j.get? "oneOf" = none)
    (hrange : j.get? "range" = none) (h : IsFirstComparison j op rhs) :
    MeansSame data row params j (.compare field op (.ofJson rhs)) := by
  intro r
  rw [Predicate.eval, resolve_ofJson]
  exact yields_test_iff hplain hfield fun v r ↦ tests_compare_iff hone hrange h

mutual

/-- The predicate that a sorted filter is read as means the same as the filter. -/
theorem meansSame_of_isSorted (j : Json R) {p : Predicate R} (hj : j.IsSorted)
    (h : ofJson j = .ok p) : MeansSame data row params j p := by
  cases isReadAs_of_ofJson hj h with
  | @and items ps hand hps =>
      have hsize := Json.sizeOf_items_lt_of_get? hand
      have hitems := forall₂_meansSame items (hj.get? hand).items hps
      exact fun r ↦ (yields_and_iff hand).trans
        (yieldsInTurn_iff (fun ps ↦ (Predicate.and ps).eval data row params) rfl eval_and_cons
          hitems)
  | @or items ps hand hor hps =>
      have hsize := Json.sizeOf_items_lt_of_get? hor
      have hitems := forall₂_meansSame items (hj.get? hor).items hps
      exact fun r ↦ (yields_or_iff hand hor).trans
        (yieldsInTurn_iff (fun ps ↦ (Predicate.or ps).eval data row params) rfl eval_or_cons hitems)
  | @not k p hand hor hnot hp =>
      have hsize := Json.sizeOf_lt_of_get? hnot
      have hk := meansSame_of_isSorted k (hj.get? hnot) hp
      intro r
      rw [yields_not_iff hand hor hnot, Predicate.eval]
      simp only [hk _, exists_eq_left']
      rfl
  | oneOf hplain hfield hone => exact meansSame_oneOf hplain hfield hone
  | range hplain hfield hone hrange => exact meansSame_range hplain hfield hone hrange
  | compare hplain hfield hone hrange hcmp =>
      exact meansSame_compare hplain hfield hone hrange hcmp
termination_by sizeOf j

theorem forall₂_meansSame (items : List (Json R)) {ps : List (Predicate R)}
    (hitems : ∀ j ∈ items, j.IsSorted) (h : readItems items = .ok ps) :
    List.Forall₂ (MeansSame data row params) items ps := by
  cases items with
  | nil =>
      cases h
      exact .nil
  | cons j items =>
      obtain ⟨hj, hitems⟩ := List.forall_mem_cons.mp hitems
      rw [readItems] at h
      obtain ⟨p, hp, h⟩ := bind_ok_iff.mp h
      obtain ⟨ps, hps, h⟩ := bind_ok_iff.mp h
      cases h
      exact .cons (meansSame_of_isSorted j hj hp) (forall₂_meansSame items hitems hps)
termination_by sizeOf items

end

end Evaluation

/-- The predicate that a filter is read as has the outcome of the filter on every row. -/
theorem yields_iff_eval {j : Json R} {p : Predicate R} (h : ofJson j.canonical = .ok p)
    (data : Dataset R) (row : Nat) (params : ParamLookup R) (r : Except DataError Bool) :
    Yields data row params j.canonical r ↔ p.eval data row params = r :=
  meansSame_of_isSorted _ (Json.isSorted_canonical j) h r

/-! ### Melons

Melons are taken that are ripe, or else not too light; nobody has said yet how heavy they have to
be. -/

/-- A ripe melon and one that is not. -/
def melons : Dataset Rat :=
  ⟨[.untyped "state", .untyped "weight"],
    [⟨0, [.string "ripe", .number 1]⟩, ⟨1, [.string "hard", .number 2]⟩], 2⟩

/-- The melons that are taken. -/
def takenMelons : Json Rat :=
  .object [("or", .array [.object [("field", .string "state"), ("equal", .string "ripe")],
    .object [("not", .object [("lt", .object [("param", .string "least")]),
      ("field", .string "weight")])]])]

/-- Nobody asks for the weight of a ripe melon, but the other one cannot be judged. -/
theorem yields_iff_eval_melons :
    (ofJson takenMelons.canonical).isOk = true ∧
      Yields melons 0 (fun _ ↦ none) takenMelons.canonical (.ok true) ∧
      Yields melons 1 (fun _ ↦ none) takenMelons.canonical (.error (.unknownParam "least")) := by
  have hread : ofJson takenMelons.canonical =
      .ok (.or [.compare "state" .eq (.value (.string "ripe")),
        .not (.compare "weight" .lt (.param "least"))]) := by
    rfl
  exact ⟨by rw [hread]; rfl, (yields_iff_eval hread melons 0 _ _).mpr rfl,
    (yields_iff_eval hread melons 1 _ _).mpr rfl⟩

end Filter

end Charting
