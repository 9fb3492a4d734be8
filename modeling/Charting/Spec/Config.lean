import Charting.Color.Palette
import Charting.Shape.Symbol
import Charting.Spec.Orient

/-!
# Configuration

Every default that compilation falls back on.  The setters keep the values within reason.
-/

namespace Charting

/-- The metrics of an axis. -/
structure AxisStyle (R : Type) where
  /-- The font size of the labels. -/
  labelFontSize : R
  /-- The font size of the title. -/
  titleFontSize : R
  /-- The length of the ticks. -/
  tickSize : R
  /-- The gap between ticks and labels. -/
  tickPadding : R
  /-- The gap between labels and title. -/
  titleOffset : R
deriving BEq, Repr

/-- The metrics of a legend. -/
structure LegendStyle (R : Type) where
  /-- The side of a swatch, and the least extent of a symbol. -/
  swatchSize : R
  /-- The gap between rows. -/
  rowGap : R
  /-- The gap between a swatch and its label. -/
  labelGap : R
  /-- The font size of the labels. -/
  fontSize : R
  /-- The font size of the title. -/
  titleFontSize : R
  /-- The gap between title and body. -/
  titlePadding : R
  /-- The length of a ramp. -/
  gradientLength : R
  /-- The thickness of a ramp. -/
  gradientThickness : R
deriving BEq, Repr

/-- The defaults of compilation. -/
structure Config (R : Type) where
  /-- The width of a view that has none. -/
  width : R
  /-- The height of a view that has none. -/
  height : R
  /-- About how many ticks an axis has. -/
  tickCount : Nat
  /-- The gap between bands, in widths of a band. -/
  bandPaddingInner : R
  /-- The gap beside the first and last band, in widths of a band. -/
  bandPaddingOuter : R
  /-- The least and greatest size of symbols. -/
  sizeRange : R × R
  /-- The least and greatest opacity. -/
  opacityRange : R × R
  /-- The size of symbols whose size is not bound. -/
  defaultPointArea : R
  /-- The opacity of filled marks whose opacity is not bound. -/
  filledOpacity : R
  /-- The colour of marks whose colour is not bound. -/
  defaultColor : Color R
  /-- The colours of categories. -/
  categorical : List (Color R)
  /-- The stops of gradients. -/
  sequential : List (Color R)
  /-- The shapes of categories. -/
  shapes : List Symbol
  /-- The thickness of bars that are not on bands. -/
  continuousBandSize : R
  /-- The length of tick marks that are not on bands. -/
  tickLength : R
  /-- The font size of text marks. -/
  textFontSize : R
  /-- The gap between the cells of a grid of charts. -/
  facetSpacing : R
  /-- The font size of the headers of a grid of charts. -/
  headerFontSize : R
  /-- Where legends stand. -/
  legendOrient : LegendOrient
  /-- Where the titles of legends stand. -/
  legendTitleOrient : TitleOrient
  /-- The distance of legends from the plot. -/
  legendOffset : R
  /-- The gap between legends. -/
  legendSpacing : R
  /-- The margin around the scene. -/
  outerPadding : R
  /-- The metrics of axes. -/
  axis : AxisStyle R
  /-- The metrics of legends. -/
  legend : LegendStyle R
deriving BEq, Repr

variable {R : Type} [Scalar R]

/-- The usual metrics of an axis. -/
def AxisStyle.standard : AxisStyle R :=
  { labelFontSize := 10.0
    titleFontSize := 11.0
    tickSize := 5.0
    tickPadding := 2.0
    titleOffset := 4.0 }

/-- The usual metrics of a legend. -/
def LegendStyle.standard : LegendStyle R :=
  { swatchSize := 10.0
    rowGap := 6.0
    labelGap := 6.0
    fontSize := 10.0
    titleFontSize := 11.0
    titlePadding := 4.0
    gradientLength := 100.0
    gradientThickness := 12.0 }

namespace Config

/-- The usual defaults. -/
def standard : Config R :=
  { width := 400.0
    height := 300.0
    tickCount := 5
    bandPaddingInner := 0.1
    bandPaddingOuter := 0.1
    sizeRange := (0.0, 1000.0)
    opacityRange := (0.0, 1.0)
    defaultPointArea := 30.0
    filledOpacity := 0.7
    defaultColor := .ofRgb 0x4c78a8
    categorical := Palette.categorical
    sequential := Palette.sequential
    shapes := Symbol.all
    continuousBandSize := 5.0
    tickLength := 14.0
    textFontSize := 11.0
    facetSpacing := 20.0
    headerFontSize := 11.0
    legendOrient := .right
    legendTitleOrient := .top
    legendOffset := 18.0
    legendSpacing := 12.0
    outerPadding := 5.0
    axis := .standard
    legend := .standard }

/-- Sets the size of views that have none. -/
def withViewSize (c : Config R) (width height : R) : Config R :=
  { c with width := Scalar.max width 0.0, height := Scalar.max height 0.0 }

/-- Sets the number of ticks, at least one. -/
def withTickCount (c : Config R) (n : Nat) : Config R := { c with tickCount := max n 1 }

/-- Sets the gaps between and beside bands. -/
def withBandPadding (c : Config R) (inner outer : R) : Config R :=
  { c with bandPaddingInner := Scalar.max inner 0.0, bandPaddingOuter := Scalar.max outer 0.0 }

/-- Sets the size of symbols whose size is not bound. -/
def withDefaultPointArea (c : Config R) (area : R) : Config R :=
  { c with defaultPointArea := Scalar.max area 0.0 }

/-- Sets the opacity of filled marks whose opacity is not bound. -/
def withFilledOpacity (c : Config R) (opacity : R) : Config R :=
  { c with filledOpacity := Scalar.clamp opacity 0.0 1.0 }

/-- Sets the thickness of bars that are not on bands. -/
def withContinuousBandSize (c : Config R) (size : R) : Config R :=
  { c with continuousBandSize := Scalar.max size 0.0 }

/-- Sets the length of tick marks that are not on bands. -/
def withTickLength (c : Config R) (length : R) : Config R :=
  { c with tickLength := Scalar.max length 0.0 }

/-- Sets the gap between the cells of a grid of charts. -/
def withFacetSpacing (c : Config R) (spacing : R) : Config R :=
  { c with facetSpacing := Scalar.max spacing 0.0 }

/-- Sets the margin around the scene. -/
def withOuterPadding (c : Config R) (padding : R) : Config R :=
  { c with outerPadding := Scalar.max padding 0.0 }

end Config

end Charting
