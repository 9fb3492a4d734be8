import Mathlib.Tactic.LinearCombination
import Charting.Proofs.Scale.DiscreteDomains
import Charting.Proofs.Scale.NiceSteps
import Charting.Proofs.Scale.Synthesis

/-!
# Bands

Bands and the gaps between and beside them fill a range exactly (`BandScale.Tiles`).  From this
follows that the bands of a scale are apart, inside the range and in the order of the domain, and
that each value of the domain is drawn in the middle of its band (`Scale.HasBands`).
-/

namespace Charting

/-! ## Bands of a range -/

namespace BandScale

/-- The lower end of the range, whatever its direction. -/
def lower (s : BandScale ℚ) : ℚ := min s.range.1 s.range.2

/-- The upper end of the range, whatever its direction. -/
def upper (s : BandScale ℚ) : ℚ := max s.range.1 s.range.2

/-- The length of the range in widths of a band. -/
def units (s : BandScale ℚ) : ℚ := s.count + s.inner * (s.count - 1) + 2 * s.outer

/-- Bands with equal gaps between them fill the range, but for a gap at both ends. -/
structure Tiles (s : BandScale ℚ) : Prop where
  /-- A band has some width, or the range has no length. -/
  width_nonneg : 0 ≤ s.width
  /-- The first gap begins at the lower end. -/
  start_zero : s.start 0 = s.lower + s.outer * s.width
  /-- A gap and the next band follow a band. -/
  start_succ (i : Nat) : s.start (i + 1) = s.start i + s.width + s.inner * s.width
  /-- The last gap ends at the upper end. -/
  stop_last : s.start (s.count - 1) + s.width + s.outer * s.width = s.upper

section Regular

variable {s : BandScale ℚ} (hcount : 1 ≤ s.count) (hinner : 0 ≤ s.inner) (houter : 0 ≤ s.outer)

include hcount hinner houter

theorem units_pos : 0 < s.units := by
  have hn : (1 : ℚ) ≤ s.count := by exact_mod_cast hcount
  have hgaps : 0 ≤ s.inner * (s.count - 1) := mul_nonneg hinner (sub_nonneg.mpr hn)
  rw [units]
  linarith

/-- All bands and gaps together are as long as the range. -/
theorem width_mul_units : s.width * s.units = s.upper - s.lower := by
  have hunits := units_pos hcount hinner houter
  have hlength : Scalar.abs (s.range.2 - s.range.1) = s.upper - s.lower := by
    rw [Exact.abs_eq, upper, lower, max_sub_min_eq_abs]
  have hcast : (Scalar.ofNat s.count : ℚ) + s.inner * (Scalar.ofNat s.count - 1.0) + 2.0 * s.outer =
      s.units := by
    rw [units, Exact.ofNat_eq]
    norm_num
  have hwidth : s.width = (s.upper - s.lower) / s.units := by
    rw [width, if_neg (Nat.one_le_iff_ne_zero.mp hcount)]
    dsimp only
    rw [hcast, hlength, if_neg]
    rw [Exact.zero_eq, beq_iff_eq]
    exact hunits.ne'
  rw [hwidth, div_mul_cancel₀ _ hunits.ne']

end Regular

/-- A band begins after the first gap and the bands and gaps before it. -/
theorem start_eq (s : BandScale ℚ) (i : Nat) :
    s.start i = s.lower + s.width * s.outer + s.width * (1 + s.inner) * i := by
  have hone : (1.0 : ℚ) = 1 := by norm_num
  rw [start, lower, Exact.ofNat_eq, min_def]
  dsimp only
  rw [hone]

theorem tiles {s : BandScale ℚ} (hcount : 1 ≤ s.count) (hinner : 0 ≤ s.inner)
    (houter : 0 ≤ s.outer) : s.Tiles where
  width_nonneg := by
    have hlength := width_mul_units hcount hinner houter
    have hunits := units_pos hcount hinner houter
    refine nonneg_of_mul_nonneg_left ?_ hunits
    rw [hlength]
    exact sub_nonneg.mpr (min_le_max)
  start_zero := by
    rw [start_eq]
    push_cast
    ring
  start_succ i := by
    rw [start_eq, start_eq]
    push_cast
    ring
  stop_last := by
    have hlength := width_mul_units hcount hinner houter
    rw [units] at hlength
    rw [start_eq, Nat.cast_sub hcount]
    push_cast
    linear_combination hlength

namespace Tiles

variable {s : BandScale ℚ} (h : s.Tiles) (hinner : 0 ≤ s.inner)

include h hinner

/-- A band ends where the next one begins, or before. -/
theorem stop_le_start {i j : Nat} (hij : i < j) : s.start i + s.width ≤ s.start j := by
  have hgap : 0 ≤ s.inner * s.width := mul_nonneg hinner h.width_nonneg
  induction j, hij using Nat.le_induction with
  | base =>
      rw [h.start_succ]
      exact le_add_of_nonneg_right hgap
  | succ j _ ih =>
      have hwidth := h.width_nonneg
      rw [h.start_succ]
      linarith

theorem start_mono {i j : Nat} (hij : i ≤ j) : s.start i ≤ s.start j := by
  rcases hij.lt_or_eq with hij | rfl
  · exact (le_add_of_nonneg_right h.width_nonneg).trans (h.stop_le_start hinner hij)
  · exact le_rfl

/-- Each of the bands is inside the range. -/
theorem inside (houter : 0 ≤ s.outer) {i : Nat} (hi : i < s.count) :
    s.lower ≤ s.start i ∧ s.start i + s.width ≤ s.upper := by
  have hgap : 0 ≤ s.outer * s.width := mul_nonneg houter h.width_nonneg
  have hfirst := h.start_mono hinner (Nat.zero_le i)
  have hlast := h.start_mono hinner (Nat.le_sub_one_of_lt hi)
  have hstart := h.start_zero
  have hstop := h.stop_last
  constructor <;> linarith

end Tiles

end BandScale

/-! ## Bands of a scale -/

namespace Scale

/-- The bands of the values of a domain are inside a range, apart from each other and in the order
of the domain, and values are drawn in the middle of their bands. -/
structure HasBands (scale : Scale ℚ) (domain : List (Value ℚ)) (lo hi : ℚ) : Prop where
  /-- The values of the domain have bands, and others have none. -/
  exists_band_iff (v : Value ℚ) :
    (∃ start width, scale.band? v = some (start, width)) ↔ ∃ w ∈ domain, w.key = v.key
  /-- Bands are inside the range. -/
  inside {v : Value ℚ} {start width : ℚ} : scale.band? v = some (start, width) →
    lo ≤ start ∧ 0 ≤ width ∧ start + width ≤ hi
  /-- Values with the same key have the same band. -/
  congr {v w : Value ℚ} : v.key = w.key → scale.band? v = scale.band? w
  /-- The bands of values with different keys have no point in common, except for their ends. -/
  apart {v v' : Value ℚ} {start width start' width' : ℚ} : scale.band? v = some (start, width) →
    scale.band? v' = some (start', width') → v.key ≠ v'.key →
    ∀ x, start < x → x < start + width → start' < x → x < start' + width' → False
  /-- The band of a value that comes first in the domain comes first in the range. -/
  follows {v v' : Value ℚ} {start width start' width' : ℚ} :
    scale.band? v = some (start, width) → scale.band? v' = some (start', width') →
    domain.findIdx (·.key = v.key) < domain.findIdx (·.key = v'.key) → start + width ≤ start'
  /-- A value is drawn in the middle of its band, and nowhere if it has none. -/
  map?_eq (v : Value ℚ) :
    scale.map? v = (scale.band? v).map fun (start, width) ↦ .number (start + width / 2)

variable {scale : Scale ℚ} {domain : List (Value ℚ)} {r₀ r₁ : ℚ}

/-- The bands of a scale, whose gaps are not negative. -/
def bandsOver (scale : Scale ℚ) (domain : List (Value ℚ)) (r₀ r₁ : ℚ) : BandScale ℚ :=
  (BandScale.ofCount (r₀, r₁) domain.length).withPadding scale.paddingInner scale.paddingOuter

theorem zero_le_inner_bandsOver : 0 ≤ (scale.bandsOver domain r₀ r₁).inner := by
  rw [bandsOver, BandScale.withPadding, Exact.max_eq, Exact.zero_eq]
  exact le_max_right _ _

theorem zero_le_outer_bandsOver : 0 ≤ (scale.bandsOver domain r₀ r₁).outer := by
  rw [bandsOver, BandScale.withPadding, Exact.max_eq, Exact.zero_eq]
  exact le_max_right _ _

theorem tiles_bandsOver (hnonempty : domain ≠ []) : (scale.bandsOver domain r₀ r₁).Tiles :=
  BandScale.tiles (List.length_pos_of_ne_nil hnonempty) zero_le_inner_bandsOver
    zero_le_outer_bandsOver

section Band

variable (hkind : scale.kind = .band) (hdomain : scale.domain = .discrete domain)
  (hrange : scale.range = .interval r₀ r₁)

include hkind hdomain hrange

theorem bands?_eq : scale.bands? = some (scale.bandsOver domain r₀ r₁) := by
  unfold bands?
  rw [hkind, hdomain, hrange]
  rfl

/-- The band of a value is the one with its position in the domain. -/
theorem band?_eq_some_iff {v : Value ℚ} {start width : ℚ} :
    scale.band? v = some (start, width) ↔ domain.findIdx (·.key = v.key) < domain.length ∧
      (scale.bandsOver domain r₀ r₁).start (domain.findIdx (·.key = v.key)) = start ∧
      (scale.bandsOver domain r₀ r₁).width = width := by
  have hindex {i : Nat} : scale.index? v = some i ↔
      i < domain.length ∧ domain.findIdx (·.key = v.key) = i := by
    rw [index?, values?, hdomain, Option.bind_some, List.findIdx?_eq_some_iff_findIdx_eq]
  rw [band?, bands?_eq hkind hdomain hrange, Option.bind_eq_bind, Option.bind_some]
  constructor
  · intro h
    obtain ⟨i, hi, h⟩ := Option.bind_eq_some_iff.mp h
    obtain ⟨hlt, rfl⟩ := hindex.mp hi
    obtain ⟨hstart, hwidth⟩ := Prod.mk.inj (Option.some.inj h)
    exact ⟨hlt, hstart, hwidth⟩
  · rintro ⟨hlt, rfl, rfl⟩
    exact Option.bind_eq_some_iff.mpr ⟨_, hindex.mpr ⟨hlt, rfl⟩, rfl⟩

/-- The image of a value is the middle of its band. -/
theorem map?_eq_map_band? (v : Value ℚ) :
    scale.map? v = (scale.band? v).map fun (start, width) ↦ .number (start + width / 2) := by
  have hbands := bands?_eq hkind hdomain hrange
  have hhalf : (0.5 : ℚ) = 1 / 2 := by norm_num
  rw [map?, hdomain, band?, hbands]
  cases hi : scale.index? v with
  | none => rfl
  | some i =>
      simp only [Option.bind_eq_bind, Option.bind_some, Option.map_some]
      rw [mapIndex?, hrange]
      simp only [hbands, Option.some.injEq, ScaleOutput.number.injEq]
      rw [hhalf]
      ring

theorem hasBands (hnonempty : domain ≠ []) : scale.HasBands domain (min r₀ r₁) (max r₀ r₁) := by
  have htiles : (scale.bandsOver domain r₀ r₁).Tiles := tiles_bandsOver hnonempty
  have hband {v : Value ℚ} {start width : ℚ} : scale.band? v = some (start, width) ↔ _ :=
    band?_eq_some_iff hkind hdomain hrange
  have hfollows {v v' : Value ℚ} {start width start' width' : ℚ}
      (hv : scale.band? v = some (start, width)) (hv' : scale.band? v' = some (start', width'))
      (hlt : domain.findIdx (·.key = v.key) < domain.findIdx (·.key = v'.key)) :
      start + width ≤ start' := by
    obtain ⟨-, rfl, rfl⟩ := hband.mp hv
    obtain ⟨-, rfl, -⟩ := hband.mp hv'
    exact htiles.stop_le_start zero_le_inner_bandsOver hlt
  refine ⟨fun v ↦ ?_, fun {v start width} hv ↦ ?_, fun {v w} hkey ↦ ?_,
    fun {v v' start width start' width'} hv hv' hkey x hx hx' hy hy' ↦ ?_, hfollows,
    map?_eq_map_band? hkind hdomain hrange⟩
  · have hfound : domain.findIdx (·.key = v.key) < domain.length ↔ ∃ w ∈ domain, w.key = v.key := by
      simp only [List.findIdx_lt_length, decide_eq_true_eq]
    rw [← hfound]
    constructor
    · rintro ⟨start, width, hv⟩
      exact (hband.mp hv).1
    · exact fun hlt ↦ ⟨_, _, hband.mpr ⟨hlt, rfl, rfl⟩⟩
  · obtain ⟨hlt, rfl, rfl⟩ := hband.mp hv
    obtain ⟨hlower, hupper⟩ :=
      htiles.inside zero_le_inner_bandsOver zero_le_outer_bandsOver hlt
    exact ⟨hlower, htiles.width_nonneg, hupper⟩
  · rw [band?, band?, index?, index?, hkey]
  · -- Different keys are found at different positions, one of which comes first.
    have hne : domain.findIdx (·.key = v.key) ≠ domain.findIdx (·.key = v'.key) := by
      intro heq
      have hkeyv := of_decide_eq_true (List.findIdx_getElem (w := (hband.mp hv).1))
      have hkeyv' := of_decide_eq_true (List.findIdx_getElem (w := (hband.mp hv').1))
      simp only [heq] at hkeyv
      exact hkey (hkeyv.symm.trans hkeyv')
    rcases hne.lt_or_gt with hlt | hlt
    · exact (hx'.trans_le (hfollows hv hv' hlt)).not_gt hy
    · exact (hy'.trans_le (hfollows hv' hv hlt)).not_gt hx

end Band

end Scale

namespace ScaleRequest

variable {R : Type} {req : ScaleRequest R} {values : List (Value R)} {spec : ScaleSpec R}
  {sort : Option (SortOrder R)} {config : Config R} {scale : Scale R}

theorem role_of_discreteKind (h : req.discreteKind = .band) : req.channel.role = .position := by
  unfold discreteKind at h
  split at h
  · assumption
  · cases h

theorem role_of_defaultKind (h : req.defaultKind = .band) : req.channel.role = .position := by
  unfold defaultKind at h
  split at h
  · exact role_of_discreteKind h
  · exact role_of_discreteKind h
  · cases h
  · cases h

/-- Bands are laid along an axis. -/
theorem role_of_scaleKind (h : req.scaleKind spec = .ok .band) : req.channel.role = .position := by
  unfold scaleKind at h
  dsimp only at h
  split at h
  case h_1 =>
    split at h
    · cases h
    · exact role_of_discreteKind (Except.ok.inj h)
  case h_2 kind hother _ =>
    split at h
    · cases h
    · exact absurd (congrArg some (Except.ok.inj h)) (by simpa using hother)
  case h_3 =>
    split at h
    · cases h
    · exact role_of_defaultKind (Except.ok.inj h)

variable [Scalar R]

/-- A scale with bands has a list of values as its domain and an interval as its range. -/
theorem exists_of_band (h : req.synthesize values spec sort config = .ok scale)
    (hkind : scale.kind = .band) : ∃ domain r₀ r₁, scale.domain = .discrete domain ∧ domain ≠ [] ∧
      scale.range = .interval r₀ r₁ := by
  obtain ⟨-, hscaleKind, hcases⟩ := synthesize_cases h
  rw [hkind] at hscaleKind hcases
  rcases hcases with ⟨hcontinuous, -⟩ | ⟨-, hdomain, hnonempty, hrange⟩
  · cases hcontinuous
  · have hrole := role_of_scaleKind hscaleKind
    have hinterval : ∃ r₀ r₁, scale.range = .interval r₀ r₁ := by
      unfold discreteRange at hrange
      cases hchannel : req.channel with
      | x | y =>
          simp only [hchannel] at hrange
          obtain ⟨⟨r₀, r₁⟩, -, hends⟩ := bind_ok_iff.mp hrange
          exact ⟨r₀, r₁, (Except.ok.inj hends).symm⟩
      | _ =>
          rw [hchannel] at hrole
          cases hrole
    obtain ⟨r₀, r₁, hinterval⟩ := hinterval
    exact ⟨_, r₀, r₁, hdomain, hnonempty, hinterval⟩

end ScaleRequest

/-- Bands and gaps fill every range.  So the bands of a scale are inside its range, apart from each
other and in the order of the domain, and each value of the domain is drawn in the middle of its
band. -/
theorem bands_tile_range :
    (∀ s : BandScale ℚ, 1 ≤ s.count → 0 ≤ s.inner → 0 ≤ s.outer → s.Tiles) ∧
    ∀ (req : ScaleRequest ℚ) (values : List (Value ℚ)) (spec : ScaleSpec ℚ)
      (sort : Option (SortOrder ℚ)) (config : Config ℚ) (scale : Scale ℚ),
      req.synthesize values spec sort config = .ok scale → scale.kind = .band →
      ∃ domain r₀ r₁, scale.domain = .discrete domain ∧ scale.range = .interval r₀ r₁ ∧
        (∃ bands, scale.bands? = some bands ∧ bands.range = (r₀, r₁) ∧
          bands.count = domain.length ∧ bands.Tiles) ∧
        scale.HasBands domain (min r₀ r₁) (max r₀ r₁) := by
  refine ⟨fun s hcount hinner houter ↦ BandScale.tiles hcount hinner houter,
    fun req values spec sort config scale h hkind ↦ ?_⟩
  obtain ⟨domain, r₀, r₁, hdomain, hnonempty, hrange⟩ := ScaleRequest.exists_of_band h hkind
  exact ⟨domain, r₀, r₁, hdomain, hrange,
    ⟨_, Scale.bands?_eq hkind hdomain hrange, rfl, rfl, Scale.tiles_bandsOver hnonempty⟩,
    Scale.hasBands hkind hdomain hrange hnonempty⟩

/-- A vertical axis of ports. -/
def portAxis : ScaleRequest ℚ where
  channel := .y
  field := "port"
  type := .nominal
  quantitativeKind := none
  mark := .bar
  extent := ⟨100, 60⟩

/-- Ports that are listed, one of them twice. -/
def portScale : ScaleSpec ℚ :=
  { ScaleSpec.auto with
    domain := some (.values [.string "Dover", .string "Leith", .string "Dover"]) }

/-- No gaps between bands, and less than none beside them. -/
def gapless : Config ℚ :=
  { Config.standard with
    bandPaddingInner := 0
    bandPaddingOuter := -1 }

/-- Three bands, from top to bottom, with gaps of half and of a quarter of their width. -/
def threeBands : BandScale ℚ := ⟨(90, 0), 3, 1 / 2, 1 / 4⟩

theorem bands_tile_range_ports :
    1 ≤ threeBands.count ∧ 0 ≤ threeBands.inner ∧ 0 ≤ threeBands.outer ∧ threeBands.Tiles ∧
      threeBands.width = 20 ∧ threeBands.start 2 = 65 ∧
      ∃ scale, portAxis.synthesize [.string "Leith"] portScale none gapless = .ok scale ∧
        scale.kind = .band ∧ scale.band? (.string "Dover") = some (0, 20) ∧
        scale.band? (.string "Leith") = some (20, 20) ∧
        ∃ domain r₀ r₁, scale.domain = .discrete domain ∧ scale.range = .interval r₀ r₁ ∧
          scale.HasBands domain (min r₀ r₁) (max r₀ r₁) := by
  have hcomputed : (portAxis.synthesize [.string "Leith"] portScale none gapless).toOption.map
      (fun scale ↦ (scale.kind, scale.band? (.string "Dover"), scale.band? (.string "Leith"))) =
      some (.band, some (0, 20), some (20, 20)) := by
    decide +kernel
  obtain ⟨scale, h, hscale⟩ := exists_ok_of_map_eq_some hcomputed
  obtain ⟨hkind, hbands⟩ := Prod.mk.inj hscale
  obtain ⟨hdover, hleith⟩ := Prod.mk.inj hbands
  obtain ⟨htiles, hscales⟩ := bands_tile_range
  obtain ⟨domain, r₀, r₁, hdomain, hrange, -, hbands⟩ := hscales _ _ _ _ _ scale h hkind
  have hcount : 1 ≤ threeBands.count := by decide
  have hinner : 0 ≤ threeBands.inner := by decide +kernel
  have houter : 0 ≤ threeBands.outer := by decide +kernel
  exact ⟨hcount, hinner, houter, htiles threeBands hcount hinner houter, by decide +kernel,
    by decide +kernel, scale, h, hkind, hdover, hleith, domain, r₀, r₁, hdomain, hrange, hbands⟩

end Charting
