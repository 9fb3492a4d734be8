import Charting.Mark.Drawing

/-!
# What marks depend on

Marks are drawn from the encodings of some channels only: a field that splits a chart into the
columns or the rows of a grid is never looked at.  So encodings that agree on all other channels draw
the same marks (`Drawing.marks_congr`), and the encodings of a grid can be left out
(`Encodings.drawAlike_unfaceted`).
-/

namespace Charting

variable {R : Type}

namespace Encodings

/-- Two lists of encodings agree on every channel that marks are drawn from. -/
structure DrawAlike (encodings others : Encodings R) : Prop where
  /-- The first encoding of each channel is the same. -/
  on?_eq : ∀ {c : Channel}, c.role ≠ .partition → encodings.on? c = others.on? c
  /-- The texts that are shown on hovering are the same. -/
  tooltips_eq : encodings.tooltips = others.tooltips

/-- The encodings without those of the columns and the rows of a grid. -/
def unfaceted (encodings : Encodings R) : Encodings R :=
  encodings.filter fun e ↦ e.channel.role != .partition

/-- Nothing is drawn from the encodings of a grid. -/
theorem drawAlike_unfaceted (encodings : Encodings R) :
    encodings.DrawAlike encodings.unfaceted where
  on?_eq := by
    intro c hc
    rw [on?, on?, unfaceted, List.find?_filter]
    refine congrArg (List.find? · encodings) (funext fun e ↦ ?_)
    by_cases he : e.channel = c
    · simp [he, hc]
    · simp [he]
  tooltips_eq := by
    rw [tooltips, tooltips, unfaceted, List.filter_filter]
    refine List.filter_congr fun e _ ↦ ?_
    by_cases he : e.channel = .tooltip
    · simp [he, Channel.role]
    · simp [he]

namespace DrawAlike

variable {encodings others : Encodings R} (h : encodings.DrawAlike others) {c : Channel}

include h

theorem field?_eq (hc : c.role ≠ .partition) : encodings.field? c = others.field? c := by
  rw [field?, field?, h.on?_eq hc]

theorem scale?_eq (hc : c.role ≠ .partition) : encodings.scale? c = others.scale? c := by
  rw [scale?, scale?, h.field?_eq hc]

theorem binds_eq (hc : c.role ≠ .partition) : encodings.binds c = others.binds c := by
  rw [binds, binds, h.on?_eq hc]

theorem value?_eq (hc : c.role ≠ .partition) (row : Row R) :
    encodings.value? c row = others.value? c row := by
  rw [value?, value?, h.field?_eq hc]

variable [Scalar R]

theorem isContinuous_eq (hc : c.role ≠ .partition) :
    encodings.isContinuous c = others.isContinuous c := by
  rw [isContinuous, isContinuous, h.scale?_eq hc]

theorem image?_eq (hc : c.role ≠ .partition) (row : Row R) :
    encodings.image? c row = others.image? c row := by
  rw [image?, image?, h.scale?_eq hc, h.value?_eq hc]

theorem place?_eq (hc : c.role ≠ .partition) (row : Row R) :
    encodings.place? c row = others.place? c row := by
  rw [place?, place?, h.on?_eq hc]

theorem baseline_eq (hc : c.role ≠ .partition) (edge : R) :
    encodings.baseline c edge = others.baseline c edge := by
  rw [baseline, baseline, h.scale?_eq hc]

theorem drawOrder_eq (rows : List (Row R)) : encodings.drawOrder rows = others.drawOrder rows := by
  rw [drawOrder, drawOrder, h.field?_eq (by decide)]

end DrawAlike

end Encodings

variable {mark : MarkSpec} {encodings others : Encodings R} {extent : Size R} {config : Config R}

/-- A mark needs nothing from the encodings of a grid. -/
theorem MarkKind.checkChannels_congr (h : encodings.DrawAlike others) (kind : MarkKind) :
    kind.checkChannels encodings = kind.checkChannels others := by
  have hmissing : kind.missingChannels? encodings = kind.missingChannels? others := by
    unfold missingChannels?
    rw [h.binds_eq (by decide), h.binds_eq (by decide), h.binds_eq (by decide)]
  rw [checkChannels, checkChannels, hmissing]

namespace Drawing

variable [Scalar R] (h : encodings.DrawAlike others)

include h

/-! ## Style -/

theorem output?_congr {α : Type} {c : Channel} (hc : c.role ≠ .partition)
    (ofConstant : Constant R → Option α) (ofImage : ScaleOutput R → Option α) (row : Row R) :
    output? ⟨mark, encodings, extent, config⟩ c ofConstant ofImage row =
      output? ⟨mark, others, extent, config⟩ c ofConstant ofImage row := by
  rw [output?, output?, h.on?_eq hc, h.image?_eq hc]

/-- Rows are painted in the same way. -/
theorem paint_congr (row : Row R) (keys : List Nat) (figure : Figure R) :
    paint ⟨mark, encodings, extent, config⟩ row keys figure =
      paint ⟨mark, others, extent, config⟩ row keys figure := by
  have hcolor : color ⟨mark, encodings, extent, config⟩ row =
      color ⟨mark, others, extent, config⟩ row := by
    rw [color, color, output?_congr h (by decide)]
  have hopacity : opacity ⟨mark, encodings, extent, config⟩ row =
      opacity ⟨mark, others, extent, config⟩ row := by
    rw [opacity, opacity, output?_congr h (by decide), h.binds_eq (by decide)]
  have htooltip : tooltip? ⟨mark, encodings, extent, config⟩ row =
      tooltip? ⟨mark, others, extent, config⟩ row := by
    rw [tooltip?, tooltip?, h.tooltips_eq]
  rw [paint, paint, hcolor, hopacity, htooltip, h.value?_eq (by decide)]

/-! ## Figures -/

/-- Rows have the same figures at the same places. -/
theorem figure?_congr (row : Row R) (x y : Place R) :
    figure? ⟨mark, encodings, extent, config⟩ row x y =
      figure? ⟨mark, others, extent, config⟩ row x y := by
  have hshape : shape ⟨mark, encodings, extent, config⟩ row =
      shape ⟨mark, others, extent, config⟩ row := by
    rw [shape, shape, output?_congr h (by decide)]
  have harea : area ⟨mark, encodings, extent, config⟩ row =
      area ⟨mark, others, extent, config⟩ row := by
    rw [area, area, output?_congr h (by decide)]
  have hlabel : label? ⟨mark, encodings, extent, config⟩ row =
      label? ⟨mark, others, extent, config⟩ row := by
    rw [label?, label?, h.on?_eq (by decide)]
  have hbar : bar ⟨mark, encodings, extent, config⟩ x y =
      bar ⟨mark, others, extent, config⟩ x y := by
    simp only [bar, h.isContinuous_eq (c := .x) (by decide),
      h.isContinuous_eq (c := .y) (by decide), h.baseline_eq (c := .x) (by decide),
      h.baseline_eq (c := .y) (by decide)]
  have hrule : rule ⟨mark, encodings, extent, config⟩ x y =
      rule ⟨mark, others, extent, config⟩ x y := by
    unfold rule
    rw [h.baseline_eq (by decide)]
  have htick : tick ⟨mark, encodings, extent, config⟩ x y =
      tick ⟨mark, others, extent, config⟩ x y := by
    simp only [tick, tickLength, h.isContinuous_eq (c := .x) (by decide),
      h.isContinuous_eq (c := .y) (by decide)]
  rw [figure?, figure?, hshape, harea, hlabel, hbar, hrule, htick]
  rfl

/-! ## Marks -/

theorem markOf?_congr (row : Row R) :
    markOf? ⟨mark, encodings, extent, config⟩ row = markOf? ⟨mark, others, extent, config⟩ row := by
  rw [markOf?, markOf?, h.place?_eq (by decide), h.place?_eq (by decide)]
  simp only [figure?_congr h, paint_congr h]

/-- Rows belong to the same series. -/
theorem seriesKey_congr (row : Row R) :
    seriesKey ⟨mark, encodings, extent, config⟩ row =
      seriesKey ⟨mark, others, extent, config⟩ row := by
  have hrole : ∀ c ∈ seriesChannels, c.role ≠ .partition := by decide
  have hchannels : (seriesChannels.filter fun c ↦ (encodings.scale? c).any (!·.isContinuous)) =
      seriesChannels.filter fun c ↦ (others.scale? c).any (!·.isContinuous) :=
    List.filter_congr fun c hc ↦ by rw [h.scale?_eq (hrole c hc)]
  rw [seriesKey, seriesKey, hchannels]
  refine List.map_congr_left fun c hc ↦ ?_
  rw [h.value?_eq (hrole c (List.mem_filter.mp hc).1)]

/-- Series have the same marks. -/
theorem seriesMark?_congr (rows : List (Row R)) :
    seriesMark? ⟨mark, encodings, extent, config⟩ rows =
      seriesMark? ⟨mark, others, extent, config⟩ rows := by
  have hvertex : vertex? ⟨mark, encodings, extent, config⟩ =
      vertex? ⟨mark, others, extent, config⟩ := by
    funext row
    rw [vertex?, vertex?, h.place?_eq (by decide), h.place?_eq (by decide)]
  have hfigure : seriesFigure ⟨mark, encodings, extent, config⟩ =
      seriesFigure ⟨mark, others, extent, config⟩ := by
    funext points
    rw [seriesFigure, seriesFigure, h.baseline_eq (by decide)]
  simp only [seriesMark?, hvertex, hfigure, paint_congr h]

/-- All marks are the same. -/
theorem marks_congr (rows : List (Row R)) :
    marks ⟨mark, encodings, extent, config⟩ rows = marks ⟨mark, others, extent, config⟩ rows := by
  have horder : marksInOrder ⟨mark, encodings, extent, config⟩ =
      marksInOrder ⟨mark, others, extent, config⟩ := by
    funext rows
    have hkey : seriesKey ⟨mark, encodings, extent, config⟩ =
        seriesKey ⟨mark, others, extent, config⟩ := funext (seriesKey_congr h)
    have hmark : markOf? ⟨mark, encodings, extent, config⟩ =
        markOf? ⟨mark, others, extent, config⟩ := funext (markOf?_congr h)
    simp only [marksInOrder, hkey, hmark, seriesMark?_congr h]
  rw [marks, marks, horder, MarkKind.checkChannels_congr h, h.drawOrder_eq]

end Drawing

end Charting
