import Charting.Numeric.Scalar

/-!
# Plane geometry

Points, sizes, rectangles and line segments.  The horizontal axis runs right and the vertical one
down.
-/

namespace Charting

/-- A point of the plane. -/
structure Point (R : Type) where
  /-- The distance to the right. -/
  x : R
  /-- The distance down. -/
  y : R
deriving BEq, DecidableEq, Repr

/-- A width and a height. -/
structure Size (R : Type) where
  /-- The horizontal extent. -/
  width : R
  /-- The vertical extent. -/
  height : R
deriving BEq, DecidableEq, Repr

/-- A rectangle, given by two opposite corners. -/
structure Rect (R : Type) where
  /-- The left edge. -/
  x0 : R
  /-- The upper edge. -/
  y0 : R
  /-- The right edge. -/
  x1 : R
  /-- The lower edge. -/
  y1 : R
deriving BEq, DecidableEq, Repr

/-- A line segment. -/
structure Segment (R : Type) where
  /-- One end. -/
  start : Point R
  /-- The other end. -/
  stop : Point R
deriving BEq, DecidableEq, Repr

variable {R : Type} [Scalar R]

namespace Point

/-- The corner that coordinates count from. -/
def origin : Point R := ⟨Scalar.ofInt 0, Scalar.ofInt 0⟩

/-- The point moved by an offset, as an affine map moves it: a coordinate that is not finite leaves
the other one undefined. -/
def translate (offset p : Point R) : Point R :=
  ⟨p.x + 0.0 * p.y + offset.x, 0.0 * p.x + p.y + offset.y⟩

end Point

namespace Rect

instance : Inhabited (Rect R) := ⟨⟨Scalar.ofInt 0, Scalar.ofInt 0, Scalar.ofInt 0, Scalar.ofInt 0⟩⟩

/-- The horizontal extent. -/
def width (r : Rect R) : R := r.x1 - r.x0

/-- The vertical extent. -/
def height (r : Rect R) : R := r.y1 - r.y0

/-- The upper left corner. -/
def origin (r : Rect R) : Point R := ⟨r.x0, r.y0⟩

/-- The point in the middle. -/
def center (r : Rect R) : Point R := ⟨0.5 * (r.x0 + r.x1), 0.5 * (r.y0 + r.y1)⟩

/-- The least rectangle with two points on its edge. -/
def ofPoints (p q : Point R) : Rect R :=
  ⟨Scalar.min p.x q.x, Scalar.min p.y q.y, Scalar.max p.x q.x, Scalar.max p.y q.y⟩

/-- The least rectangle around two rectangles. -/
def union (r s : Rect R) : Rect R :=
  ⟨Scalar.min r.x0 s.x0, Scalar.min r.y0 s.y0, Scalar.max r.x1 s.x1, Scalar.max r.y1 s.y1⟩

/-- The least rectangle around a rectangle and a point. -/
def unionPoint (r : Rect R) (p : Point R) : Rect R :=
  ⟨Scalar.min r.x0 p.x, Scalar.min r.y0 p.y, Scalar.max r.x1 p.x, Scalar.max r.y1 p.y⟩

/-- The least rectangle around the four corners moved by an offset. -/
def translate (offset : Point R) (r : Rect R) : Rect R :=
  let corner (x y : R) := Point.translate offset ⟨x, y⟩
  (ofPoints (corner r.x0 r.y0) (corner r.x0 r.y1)).union
    (ofPoints (corner r.x1 r.y0) (corner r.x1 r.y1))

end Rect

end Charting
