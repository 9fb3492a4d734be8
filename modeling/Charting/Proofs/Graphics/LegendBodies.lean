import Mathlib.Tactic.Linarith
import Mathlib.Tactic.Ring
import Charting.Graphics.Legends
import Charting.Proofs.Numeric.Laws

/-!
# The room that the entries of a legend take

The entries of a legend are drawn one below the other, as rows of symbols or as pieces of a ramp.
They start at the upper edge of the body and reach down as far as the body is high
(`Legend.forall_bodySpans_iff`), and so what is drawn agrees with what has been measured as long as
the body starts where the measured one does.  With a title beside the entries it does not: they are
drawn below the title all the same, and its height has not been added to theirs.  Then the entries
stay within the bounds only if they, or the title, take no room
(`Legend.bodySpans_within_bounds_iff`).
-/

namespace Charting

/-- No length is negative. -/
structure LegendStyle.IsNonneg (style : LegendStyle Rat) : Prop where
  swatchSize : 0 ≤ style.swatchSize
  rowGap : 0 ≤ style.rowGap
  labelGap : 0 ≤ style.labelGap
  fontSize : 0 ≤ style.fontSize
  titleFontSize : 0 ≤ style.titleFontSize
  titlePadding : 0 ≤ style.titlePadding
  gradientLength : 0 ≤ style.gradientLength
  gradientThickness : 0 ≤ style.gradientThickness

namespace Legend

section Spans

variable {R : Type} [Scalar R]

/-- The upper and the lower end of the `i`-th row of symbols. -/
def rowSpan (l : Legend R) (style : LegendStyle R) (i : Nat) : R × R :=
  let half := 0.5 * l.rowHeight style
  (l.rowCenter style i - half, l.rowCenter style i + half)

/-- The upper and the lower end of the `i`-th piece of the ramp. -/
def rampSpan (l : Legend R) (style : LegendStyle R) (i : Nat) : R × R :=
  ((l.rampRect style i).y0, (l.rampRect style i).y1)

/-- The upper and the lower ends of the rows or pieces that `Graphics.legendBody` draws. -/
def bodySpans (l : Legend R) (style : LegendStyle R) : List (R × R) :=
  match l.kind with
  | .symbol => l.entries.zipIdx.map fun (_, i) ↦ l.rowSpan style i
  | .gradient => l.entries.zipIdx.dropLast.map fun (_, i) ↦ l.rampSpan style i

end Spans

/-- The bounds have the size that is asked for. -/
def IsMeasured (l : Legend Rat) (style : LegendStyle Rat) : Prop :=
  (⟨l.bounds.width, l.bounds.height⟩ : Size Rat) = l.measure style .heuristic

variable {l : Legend Rat} {style : LegendStyle Rat}

/-! ## Rows and pieces -/

theorem swatchSize_le_symbolExtent (l : Legend Rat) (style : LegendStyle Rat) :
    style.swatchSize ≤ l.symbolExtent style :=
  Scalar.le_foldl_max List.mem_cons_self rfl

theorem rowHeight_nonneg (hstyle : style.IsNonneg) : 0 ≤ l.rowHeight style := by
  have hextent := hstyle.swatchSize.trans (l.swatchSize_le_symbolExtent style)
  rw [rowHeight, Exact.max_eq]
  exact le_max_of_le_left hextent

/-- `n` spans of one length at equal distances. -/
def ladder (top pitch length : Rat) (n : Nat) : List (Rat × Rat) :=
  (List.range n).map fun (i : Nat) ↦ (top + i * pitch, top + i * pitch + length)

theorem ladder_succ_ne_nil {top pitch length : Rat} (n : Nat) :
    ladder top pitch length (n + 1) ≠ [] := by
  simp [ladder]

/-- Spans at equal distances lie between two ends if the first one does above and the last one does
below. -/
theorem forall_ladder_iff {top pitch length lo hi : Rat} (hpitch : 0 ≤ pitch) (n : Nat) :
    (∀ span ∈ ladder top pitch length (n + 1), lo ≤ span.1 ∧ span.2 ≤ hi) ↔
      lo ≤ top ∧ top + n * pitch + length ≤ hi := by
  simp only [ladder, List.forall_mem_map, List.mem_range, Nat.lt_succ_iff]
  constructor
  · intro h
    have hfirst := (h 0 (Nat.zero_le n)).1
    rw [Nat.cast_zero, zero_mul, add_zero] at hfirst
    exact ⟨hfirst, (h n (le_refl n)).2⟩
  · rintro ⟨hlo, hhi⟩ i hi
    have hle : (i : Rat) * pitch ≤ n * pitch :=
      mul_le_mul_of_nonneg_right (Nat.cast_le.mpr hi) hpitch
    have hnonneg : 0 ≤ (i : Rat) * pitch := mul_nonneg (Nat.cast_nonneg i) hpitch
    constructor <;> linarith

/-- What is done with the positions of a list is done with a range of numbers. -/
private theorem map_zipIdx {α β : Type} (f : Nat → β) (xs : List α) :
    (xs.zipIdx.map fun (_, i) ↦ f i) = (List.range xs.length).map f := by
  rw [List.range_eq_range', ← List.zipIdx_map_snd 0 xs, List.map_map]
  rfl

/-- The rows of symbols start at equal distances. -/
theorem bodySpans_symbol (hkind : l.kind = .symbol) (style : LegendStyle Rat) :
    l.bodySpans style = ladder (l.bodyTop style) (l.rowHeight style + style.rowGap)
      (l.rowHeight style) l.entries.length := by
  have hspans : l.bodySpans style = (List.range l.entries.length).map (l.rowSpan style) := by
    rw [bodySpans, hkind, ← map_zipIdx]
  rw [hspans]
  refine List.map_congr_left fun i _ ↦ ?_
  rw [rowSpan, rowCenter, Exact.ofNat_eq]
  refine Prod.ext (add_sub_cancel_right _ _) ?_
  norm_num
  ring

/-- The pieces of the ramp follow one another. -/
theorem bodySpans_gradient (hkind : l.kind = .gradient) (style : LegendStyle Rat) :
    l.bodySpans style =
      ladder (l.bodyTop style) (l.rampStep style) (l.rampStep style) (l.entries.length - 1) := by
  have hspans : l.bodySpans style = (List.range (l.entries.length - 1)).map (l.rampSpan style) := by
    calc
      l.bodySpans style = (l.entries.zipIdx.map fun (_, i) ↦ l.rampSpan style i).dropLast := by
        rw [bodySpans, hkind]
        exact List.map_dropLast
      _ = (List.range (l.entries.length - 1)).map (l.rampSpan style) := by
        rw [map_zipIdx, ← List.map_dropLast, List.dropLast_eq_take, List.take_range,
          List.length_range, Nat.min_eq_left (Nat.sub_le _ 1)]
  rw [hspans]
  refine List.map_congr_left fun i _ ↦ ?_
  rw [rampSpan, rampRect, rampAt, rampAt, Exact.ofNat_eq, Exact.ofNat_eq, Nat.cast_succ]
  exact Prod.ext rfl (by ring)

/-! ## The height of the body -/

/-- The height of the rows reaches from the upper end of the first row to the lower end of the last
one. -/
theorem rowsHeight_of_length {n : Nat} (hn : l.entries.length = n + 1) :
    l.rowsHeight style = n * (l.rowHeight style + style.rowGap) + l.rowHeight style := by
  have hpos : (0.0 : Rat) < (n + 1 : Nat) := by
    rw [Exact.zero_eq]
    exact Nat.cast_pos.mpr n.succ_pos
  rw [rowsHeight, hn, Exact.ofNat_eq, if_pos hpos]
  push_cast
  norm_num
  ring

/-- The pieces of the ramp are as long as the ramp. -/
theorem gradientLength_of_length {n : Nat} (hn : l.entries.length - 1 = n + 1) :
    style.gradientLength = n * l.rampStep style + l.rampStep style := by
  have hpieces : max l.entries.length 2 - 1 = n + 1 := by omega
  have hne : ((n + 1 : Nat) : Rat) ≠ 0 := Nat.cast_ne_zero.mpr n.succ_ne_zero
  rw [rampStep, hpieces, Exact.ofNat_eq, ← add_one_mul, ← Nat.cast_succ, mul_div_cancel₀ _ hne]

theorem rampStep_nonneg (hstyle : style.IsNonneg) : 0 ≤ l.rampStep style := by
  rw [rampStep, Exact.ofNat_eq]
  exact div_nonneg hstyle.gradientLength (Nat.cast_nonneg _)

/-- What is drawn for the entries starts at the upper edge of the body and is as high as the
body. -/
theorem forall_bodySpans_iff (hstyle : style.IsNonneg) (m : TextMeasurer Rat) {lo hi : Rat} :
    (∀ span ∈ l.bodySpans style, lo ≤ span.1 ∧ span.2 ≤ hi) ↔
      l.bodySpans style = [] ∨
        lo ≤ l.bodyTop style ∧ l.bodyTop style + (l.bodySize style m).height ≤ hi := by
  cases hkind : l.kind with
  | symbol =>
      rw [bodySpans_symbol hkind]
      cases hn : l.entries.length with
      | zero => simp [ladder]
      | succ n =>
          have hheight : (l.bodySize style m).height =
              n * (l.rowHeight style + style.rowGap) + l.rowHeight style := by
            rw [← rowsHeight_of_length hn, bodySize, hkind]
          have hpitch := add_nonneg (rowHeight_nonneg (l := l) hstyle) hstyle.rowGap
          rw [forall_ladder_iff hpitch, hheight, ← add_assoc]
          exact (or_iff_right (ladder_succ_ne_nil n)).symm
  | gradient =>
      rw [bodySpans_gradient hkind]
      cases hn : l.entries.length - 1 with
      | zero => simp [ladder]
      | succ n =>
          have hheight : (l.bodySize style m).height =
              n * l.rampStep style + l.rampStep style := by
            rw [← gradientLength_of_length hn, bodySize, hkind]
          rw [forall_ladder_iff (rampStep_nonneg hstyle), hheight, ← add_assoc]
          exact (or_iff_right (ladder_succ_ne_nil n)).symm

/-! ## Within the bounds -/

/-- A sum of three lengths is not more than the greater one of the first and the second exactly if
the third one is zero, and one of these. -/
private theorem add_add_le_max_iff {a b c : Rat} (ha : 0 ≤ a) (hb : 0 ≤ b) (hc : 0 ≤ c) :
    b + c + a ≤ max a b ↔ c = 0 ∧ (b = 0 ∨ a = 0) := by
  rw [le_max_iff]
  constructor
  · rintro (h | h)
    · exact ⟨by linarith, .inl (by linarith)⟩
    · exact ⟨by linarith, .inr (by linarith)⟩
  · rintro ⟨rfl, rfl | rfl⟩
    · exact .inl (by linarith)
    · exact .inr (by linarith)

theorem bodySize_height_nonneg (hstyle : style.IsNonneg) (m : TextMeasurer Rat) :
    0 ≤ (l.bodySize style m).height := by
  rw [bodySize]
  cases l.kind with
  | gradient => exact hstyle.gradientLength
  | symbol =>
      have hrow := rowHeight_nonneg (l := l) hstyle
      cases hn : l.entries.length with
      | zero =>
          have hzero : l.rowsHeight style = 0 := by
            rw [rowsHeight, hn, Exact.ofNat_eq, Nat.cast_zero, Exact.zero_eq]
            exact if_neg (lt_irrefl 0)
          exact hzero.ge
      | succ n =>
          have hgaps := mul_nonneg n.cast_nonneg (add_nonneg hrow hstyle.rowGap)
          exact (add_nonneg hgaps hrow).trans_eq (rowsHeight_of_length hn).symm

/-- A title above or below the entries adds to their height, and one beside them does not. -/
theorem measure_height (hstyle : style.IsNonneg) :
    (l.measure style .heuristic).height =
      if l.title.isEmpty then (l.bodySize style .heuristic).height
      else if l.titleOrient.isBeside then
        max (l.bodySize style .heuristic).height style.titleFontSize
      else (l.bodySize style .heuristic).height + (style.titleFontSize + style.titlePadding) := by
  rw [measure]
  dsimp only
  split
  · rfl
  · split
    · exact Exact.max_eq _ _
    · have hpadding : Scalar.max style.titlePadding 0.0 = style.titlePadding := by
        rw [Exact.max_eq, Exact.zero_eq, max_eq_left hstyle.titlePadding]
      rw [hpadding, add_comm style.titleFontSize, ← add_assoc]
      rfl

/-- The entries start at the upper edge of the bounds, or below a title. -/
theorem y0_le_bodyTop (hstyle : style.IsNonneg) : l.bounds.y0 ≤ l.bodyTop style := by
  rw [bodyTop]
  split
  · exact le_refl _
  · exact le_add_of_nonneg_right (add_nonneg hstyle.titleFontSize hstyle.titlePadding)

/-- Without a title beside it the body ends within the bounds. -/
theorem bodyBottom_le (hstyle : style.IsNonneg) (hl : l.IsMeasured style)
    (h : l.title.isEmpty = true ∨ l.titleOrient.isBeside = false) :
    l.bodyTop style + (l.bodySize style .heuristic).height ≤ l.bounds.y1 := by
  have hheight : l.bounds.y1 - l.bounds.y0 = (l.measure style .heuristic).height :=
    congrArg Size.height hl
  rw [measure_height hstyle] at hheight
  have hroom := add_nonneg hstyle.titleFontSize hstyle.titlePadding
  cases htitle : l.title.isEmpty with
  | true =>
      rw [htitle, if_pos rfl] at hheight
      rw [bodyTop, htitle, Bool.true_or, if_pos rfl]
      linarith
  | false =>
      have hside : l.titleOrient.isBeside = false := h.resolve_left (by simp [htitle])
      rw [htitle, hside, if_neg Bool.false_ne_true, if_neg Bool.false_ne_true] at hheight
      rw [bodyTop]
      split <;> linarith

/-- With a title beside it the body starts too low. -/
theorem bodyBottom_le_iff (hstyle : style.IsNonneg) (hl : l.IsMeasured style)
    (htitle : l.title.isEmpty = false) (hside : l.titleOrient.isBeside = true) :
    l.bodyTop style + (l.bodySize style .heuristic).height ≤ l.bounds.y1 ↔
      style.titlePadding = 0 ∧
        (style.titleFontSize = 0 ∨ (l.bodySize style .heuristic).height = 0) := by
  have hheight : l.bounds.y1 - l.bounds.y0 = (l.measure style .heuristic).height :=
    congrArg Size.height hl
  rw [measure_height hstyle, htitle, hside, if_neg Bool.false_ne_true, if_pos rfl] at hheight
  have htop : l.bodyTop style = l.bounds.y0 + (style.titleFontSize + style.titlePadding) := by
    have hbottom : l.titleOrient ≠ .bottom := fun heq ↦ by simp [heq, TitleOrient.isBeside] at hside
    simp [bodyTop, htitle, hbottom]
  have hbody := bodySize_height_nonneg (l := l) hstyle .heuristic
  rw [htop, ← add_add_le_max_iff hbody hstyle.titleFontSize hstyle.titlePadding, ← hheight]
  constructor <;> intro h <;> linarith

/-- The entries of a legend that is as large as it asks for are drawn within its bounds exactly if
it has no title, or one above or below them, or nothing is drawn, or there is no gap between them
and the title and one of the two has no height. -/
theorem bodySpans_within_bounds_iff (hstyle : style.IsNonneg) (hl : l.IsMeasured style) :
    (∀ span ∈ l.bodySpans style, l.bounds.y0 ≤ span.1 ∧ span.2 ≤ l.bounds.y1) ↔
      l.title.isEmpty = true ∨ l.titleOrient.isBeside = false ∨ l.bodySpans style = [] ∨
        style.titlePadding = 0 ∧
          (style.titleFontSize = 0 ∨ (l.bodySize style .heuristic).height = 0) := by
  rw [forall_bodySpans_iff hstyle .heuristic, and_iff_right (y0_le_bodyTop hstyle)]
  by_cases habove : l.title.isEmpty = true ∨ l.titleOrient.isBeside = false
  · have hbottom := bodyBottom_le hstyle hl habove
    exact iff_of_true (.inr hbottom) (habove.imp_right .inl)
  · obtain ⟨htitle, hside⟩ := not_or.mp habove
    rw [bodyBottom_le_iff hstyle hl (Bool.eq_false_iff.mpr htitle) (by simpa using hside),
      or_iff_right htitle, or_iff_right hside]

/-- A ramp for depths, with its title above it or beside it. -/
def depths (titleOrient : TitleOrient) : Legend Rat where
  channels := [.color]
  field := "depth"
  type := .quantitative
  title := "Depth"
  kind := .gradient
  entries := [⟨.number 0, "0", none, none, none, none⟩, ⟨.number 9, "9", none, none, none, none⟩]
  orient := .right
  titleOrient := titleOrient
  bounds := if titleOrient.isBeside then ⟨0, 0, 61, 100⟩ else ⟨0, 0, 33, 115⟩

/-- The ramp is drawn within its bounds with its title above it, and not with its title at the
left. -/
theorem bodySpans_within_bounds_iff_depths :
    LegendStyle.IsNonneg .standard ∧ (∀ o, (depths o).IsMeasured .standard) ∧
      (∀ span ∈ (depths .top).bodySpans .standard, 0 ≤ span.1 ∧ span.2 ≤ 115) ∧
      ¬∀ span ∈ (depths .left).bodySpans .standard, 0 ≤ span.1 ∧ span.2 ≤ 100 := by
  have hstyle : LegendStyle.IsNonneg .standard := by constructor <;> decide +kernel
  have hmeasured (o : TitleOrient) : (depths o).IsMeasured .standard := by
    cases o <;> (unfold IsMeasured; decide +kernel)
  refine ⟨hstyle, hmeasured, ?_, fun h ↦ ?_⟩
  · exact (bodySpans_within_bounds_iff hstyle (hmeasured .top)).mpr (.inr (.inl rfl))
  · rcases (bodySpans_within_bounds_iff hstyle (hmeasured .left)).mp h with h | h | h | ⟨h, -⟩
    · exact absurd h (by decide +kernel)
    · exact absurd h (by decide)
    · exact absurd h (by decide +kernel)
    · exact absurd h (by decide +kernel)

/-- The entries of a legend are not always drawn within its bounds. -/
theorem not_forall_bodySpans_within_bounds :
    ¬∀ (style : LegendStyle Rat) (l : Legend Rat), style.IsNonneg → l.IsMeasured style →
      ∀ span ∈ l.bodySpans style, l.bounds.y0 ≤ span.1 ∧ span.2 ≤ l.bounds.y1 := by
  intro h
  have hmeasured : (depths .left).IsMeasured .standard := by
    unfold IsMeasured
    decide +kernel
  have hbounds := h .standard (depths .left) (by constructor <;> decide +kernel) hmeasured
  have hdrawn : (15, 115) ∈ (depths .left).bodySpans .standard := by decide +kernel
  exact absurd (hbounds _ hdrawn).2 (by decide +kernel)

end Legend

end Charting
