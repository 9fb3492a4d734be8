import Charting.Proofs.Success
import Charting.Scale.Synthesis

/-!
# What scales are made of

A scale that can be made is of the requested channel and has a domain and a range that belong
together (`ScaleRequest.synthesize_cases`).  Its range suits the channel, and so does every image of
a value: colours are shown as colours, shapes as shapes, and everything else as numbers
(`Scale.suits_of_map?`).
-/

namespace Charting

variable {R : Type}

/-- Whether an image is what a channel shows. -/
def ScaleOutput.Suits : ScaleOutput R → Channel → Prop
  | color _, c => c = .color
  | shape _, c => c = .shape
  | number _, c => c ≠ .color ∧ c ≠ .shape

/-- Whether a range has images that a channel shows. -/
def ScaleRange.Suits : ScaleRange R → Channel → Prop
  | colors _, c | gradient _, c => c = .color
  | shapes _, c => c = .shape
  | interval _ _, c | numbers _, c => c ≠ .color ∧ c ≠ .shape

variable [Scalar R]

/-! ## Images -/

namespace Scale

variable {s : Scale R} {c : Channel} {out : ScaleOutput R}

/-- A number is mapped to something that the range has. -/
theorem suits_of_mapBetween? {lo hi x : R} (hrange : s.range.Suits c)
    (h : s.mapBetween? lo hi x = some out) : out.Suits c := by
  unfold mapBetween? at h
  split at h
  · cases h
  · dsimp only at h
    split at h
    case h_1 heq =>
      rw [heq] at hrange
      obtain rfl := Option.some.inj h
      exact hrange
    case h_2 heq =>
      rw [heq] at hrange
      obtain ⟨color, -, rfl⟩ := Option.map_eq_some_iff.mp h
      exact hrange
    case h_3 => cases h

/-- A position in a list is mapped to something that the range has. -/
theorem suits_of_mapIndex? {i n : Nat} (hrange : s.range.Suits c)
    (h : s.mapIndex? i n = some out) : out.Suits c := by
  unfold mapIndex? at h
  split at h
  case h_1 heq =>
    rw [heq] at hrange
    split at h
    all_goals
      obtain rfl := Option.some.inj h
      exact hrange
  all_goals
    rename_i heq
    rw [heq] at hrange
    obtain ⟨image, -, rfl⟩ := Option.map_eq_some_iff.mp h
    exact hrange

/-- A value is mapped to something that the range has. -/
theorem suits_of_map? {v : Value R} (hrange : s.range.Suits c) (h : s.map? v = some out) :
    out.Suits c := by
  unfold map? at h
  split at h
  · obtain ⟨x, -, h⟩ := Option.bind_eq_some_iff.mp h
    exact suits_of_mapBetween? hrange h
  · obtain ⟨i, -, h⟩ := Option.bind_eq_some_iff.mp h
    exact suits_of_mapIndex? hrange h

end Scale

namespace ScaleRequest

variable {req : ScaleRequest R} {given : Option (RangeOverride R)} {values : List (Value R)}
  {spec : ScaleSpec R} {sort : Option (SortOrder R)} {config : Config R} {range : ScaleRange R}
  {scale : Scale R}

/-! ## Ranges -/

/-- Colours and shapes have no range of numbers. -/
theorem channel_of_numericRange {ends : R × R} (h : req.numericRange given config = .ok ends) :
    req.channel ≠ .color ∧ req.channel ≠ .shape := by
  refine ⟨fun hchannel ↦ ?_, fun hchannel ↦ ?_⟩
  all_goals
    rw [numericRange, defaultRange?, hchannel] at h
    cases h

theorem suits_of_continuousRange (h : req.continuousRange given config = .ok range) :
    range.Suits req.channel := by
  unfold continuousRange at h
  split at h
  case h_1 hchannel =>
    obtain rfl := Except.ok.inj h
    exact hchannel
  case h_2 hchannel =>
    obtain rfl := Except.ok.inj h
    exact hchannel
  case h_3 => cases h
  case h_4 =>
    obtain ⟨ends, hends, h⟩ := bind_ok_iff.mp h
    obtain rfl := Except.ok.inj h
    exact channel_of_numericRange hends

theorem suits_of_discreteRange {n : Nat} (h : req.discreteRange given n config = .ok range) :
    range.Suits req.channel := by
  unfold discreteRange at h
  split at h
  case h_1 | h_2 | h_5 | h_6 =>
    obtain ⟨ends, hends, h⟩ := bind_ok_iff.mp h
    obtain rfl := Except.ok.inj h
    exact channel_of_numericRange hends
  case h_11 => cases h
  all_goals
    rename_i hchannel
    obtain rfl := Except.ok.inj h
    simp [ScaleRange.Suits, hchannel]

/-! ## Scales -/

/-- A scale is of the channel that it is requested for and of the kind that is asked for.  Its
domain is an interval if the kind is continuous, else a list of values, and its range is made for
the domain. -/
theorem synthesize_cases (h : req.synthesize values spec sort config = .ok scale) :
    scale.channel = req.channel ∧ req.scaleKind spec = .ok scale.kind ∧
      ((scale.kind.isContinuous = true ∧ (∃ lo hi, scale.domain = .continuous lo hi) ∧
          req.continuousRange spec.range config = .ok scale.range) ∨
        (scale.kind.isContinuous = false ∧
          scale.domain = .discrete (req.domainValues values spec sort) ∧
          req.domainValues values spec sort ≠ [] ∧
          req.discreteRange spec.range (req.domainValues values spec sort).length config =
            .ok scale.range)) := by
  obtain ⟨kind, hkind, h⟩ := bind_ok_iff.mp h
  split at h
  case isTrue hcontinuous =>
    obtain ⟨ends, -, h⟩ := bind_ok_iff.mp h
    obtain ⟨raw, -, h⟩ := bind_ok_iff.mp h
    obtain ⟨range, hrange, h⟩ := bind_ok_iff.mp h
    obtain rfl := Except.ok.inj h
    exact ⟨rfl, hkind, .inl ⟨hcontinuous, ⟨_, _, rfl⟩, hrange⟩⟩
  case isFalse hdiscrete =>
    unfold discreteScale at h
    dsimp only at h
    split at h
    case isTrue => cases h
    case isFalse hnonempty =>
      obtain ⟨range, hrange, h⟩ := bind_ok_iff.mp h
      obtain rfl := Except.ok.inj h
      exact ⟨rfl, hkind, .inr ⟨by simpa using hdiscrete, rfl, by simpa using hnonempty, hrange⟩⟩

/-- The range of a scale suits its channel. -/
theorem suits_of_synthesize (h : req.synthesize values spec sort config = .ok scale) :
    scale.range.Suits req.channel := by
  obtain ⟨-, -, ⟨-, -, hrange⟩ | ⟨-, -, -, hrange⟩⟩ := synthesize_cases h
  · exact suits_of_continuousRange hrange
  · exact suits_of_discreteRange hrange

end ScaleRequest

end Charting
