/-!
# Orientations

Where legends, their titles and axes stand.
-/

namespace Charting

/-- Where a legend stands. -/
inductive LegendOrient where
  /-- Left of the plot. -/
  | left
  /-- Right of the plot. -/
  | right
  /-- Above the plot. -/
  | top
  /-- Below the plot. -/
  | bottom
  /-- In the upper left corner of the plot. -/
  | topLeft
  /-- In the upper right corner of the plot. -/
  | topRight
  /-- In the lower left corner of the plot. -/
  | bottomLeft
  /-- In the lower right corner of the plot. -/
  | bottomRight
deriving DecidableEq, Repr, Inhabited

namespace LegendOrient

/-- The name in documents. -/
def name : LegendOrient → String
  | left => "left"
  | right => "right"
  | top => "top"
  | bottom => "bottom"
  | topLeft => "top-left"
  | topRight => "top-right"
  | bottomLeft => "bottom-left"
  | bottomRight => "bottom-right"

/-- The orientation with a name; corners may also be written as one word. -/
def ofName? (s : String) : Option LegendOrient :=
  match s with
  | "left" => some left
  | "right" => some right
  | "top" => some top
  | "bottom" => some bottom
  | "top-left" | "topLeft" => some topLeft
  | "top-right" | "topRight" => some topRight
  | "bottom-left" | "bottomLeft" => some bottomLeft
  | "bottom-right" | "bottomRight" => some bottomRight
  | _ => none

end LegendOrient

/-- Where the title of a legend stands. -/
inductive TitleOrient where
  /-- Above the entries. -/
  | top
  /-- Below the entries. -/
  | bottom
  /-- Left of the entries. -/
  | left
  /-- Right of the entries. -/
  | right
deriving DecidableEq, Repr, Inhabited

namespace TitleOrient

/-- The name in documents. -/
def name : TitleOrient → String
  | top => "top"
  | bottom => "bottom"
  | left => "left"
  | right => "right"

/-- The orientation with a name. -/
def ofName? (s : String) : Option TitleOrient :=
  [top, bottom, left, right].find? (·.name == s)

/-- Whether the title stands beside the entries. -/
def isBeside : TitleOrient → Bool
  | left | right => true
  | top | bottom => false

end TitleOrient

/-- Where an axis stands. -/
inductive AxisOrient where
  /-- Above the plot. -/
  | top
  /-- Below the plot. -/
  | bottom
  /-- Left of the plot. -/
  | left
  /-- Right of the plot. -/
  | right
deriving DecidableEq, Repr, Inhabited

namespace AxisOrient

/-- The name in documents. -/
def name : AxisOrient → String
  | top => "top"
  | bottom => "bottom"
  | left => "left"
  | right => "right"

/-- Whether the axis runs from left to right. -/
def isHorizontal : AxisOrient → Bool
  | top | bottom => true
  | left | right => false

end AxisOrient

end Charting
