import Charting.Shape.Geometry

/-!
# Paths

A path is drawn by moving a pen along lines and cubic curves.  `Path.text` is its notation in vector
graphics, and `Path.boundingBox` the least rectangle around it.
-/

namespace Charting

/-- One movement of the pen. -/
inductive PathStep (R : Type) where
  /-- Go to a point without drawing. -/
  | move (p : Point R)
  /-- Draw a line to a point. -/
  | line (p : Point R)
  /-- Draw a cubic curve with two control points to a point. -/
  | curve (c₁ c₂ p : Point R)
  /-- Draw a line to where the pen was last moved without drawing. -/
  | close
deriving BEq, DecidableEq, Repr

/-- A sequence of movements. -/
abbrev Path (R : Type) := List (PathStep R)

/-- A drawn piece of a path, with its ends. -/
inductive Arc (R : Type) where
  /-- A line. -/
  | line (p q : Point R)
  /-- A cubic curve. -/
  | curve (p c₁ c₂ q : Point R)

variable {R : Type} [Scalar R]

/-! ## Bounding boxes -/

/-- The roots of `c₀ + c₁ t + c₂ t²`.  Where the equation is not properly quadratic, the root of its
linear part; if that vanishes as well, zero. -/
def quadraticRoots (c₀ c₁ c₂ : R) : List R :=
  let inverse := 1.0 / c₂
  let s₀ := c₀ * inverse
  let s₁ := c₁ * inverse
  if !(Scalar.isFinite s₀ && Scalar.isFinite s₁) then
    let root := -c₀ / c₁
    if Scalar.isFinite root then [root]
    else if c₀ == 0.0 && c₁ == 0.0 then [0.0]
    else []
  else
    let arg := s₁ * s₁ - 4.0 * s₀
    if Scalar.isFinite arg && arg < 0.0 then []
    else if arg == 0.0 then [-0.5 * s₁]
    else
      let root := Scalar.sqrt arg
      let signed := if Scalar.totalOrder s₁ (Scalar.ofInt 0) == .lt then -root else root
      let root₁ := if Scalar.isFinite arg then -0.5 * (s₁ + signed) else -s₁
      let root₂ := s₀ / root₁
      if Scalar.isFinite root₂ then [root₁, root₂] else [root₁]

/-- Where a coordinate of a curve turns, given the differences of its successive control points. -/
def turningPoints (d₀ d₁ d₂ : R) : List R :=
  (quadraticRoots d₀ (2.0 * (d₁ - d₀)) (d₀ - 2.0 * d₁ + d₂)).filter fun t => 0.0 < t && t < 1.0

/-- The coordinate of a curve at `t`, given the coordinates of its control points. -/
def curveAt (p₀ p₁ p₂ p₃ t : R) : R :=
  let s := 1.0 - t
  p₀ * (s * s * s) + (p₁ * (s * s * 3.0) + (p₂ * (s * 3.0) + p₃ * t) * t) * t

namespace Arc

/-- The least rectangle around an arc. -/
def boundingBox : Arc R → Rect R
  | line p q => .ofPoints p q
  | curve p c₁ c₂ q =>
    let turns := turningPoints (c₁.x - p.x) (c₂.x - c₁.x) (q.x - c₂.x) ++
      turningPoints (c₁.y - p.y) (c₂.y - c₁.y) (q.y - c₂.y)
    turns.foldl (fun box t => box.unionPoint
      ⟨curveAt p.x c₁.x c₂.x q.x t, curveAt p.y c₁.y c₂.y q.y t⟩) (.ofPoints p q)

end Arc

namespace Path

/-- The arcs that are drawn when the pen is at `last`, after it was moved to `first`.  Closing draws
nothing where the pen is back already. -/
def arcsFrom (first last : Point R) : Path R → List (Arc R)
  | [] => []
  | .move p :: rest => arcsFrom p p rest
  | .line p :: rest => .line last p :: arcsFrom first p rest
  | .curve c₁ c₂ p :: rest => .curve last c₁ c₂ p :: arcsFrom first p rest
  | .close :: rest =>
    if last == first then arcsFrom first first rest
    else .line last first :: arcsFrom first first rest

/-- The arcs of a path. -/
def arcs (path : Path R) : List (Arc R) := arcsFrom .origin .origin path

/-- The least rectangle around a path; that of nothing is at the origin. -/
def boundingBox (path : Path R) : Rect R :=
  match path.arcs with
  | [] => default
  | arc :: rest => rest.foldl (fun box arc => box.union arc.boundingBox) arc.boundingBox

/-! ## Making paths -/

/-- Lines from point to point. -/
def polyline : List (Point R) → Path R
  | [] => []
  | p :: rest => .move p :: rest.map .line

/-- Lines from point to point and back. -/
def polygon (points : List (Point R)) : Path R := polyline points ++ [.close]

/-- The outline of a rectangle. -/
def rect (r : Rect R) : Path R :=
  polygon [⟨r.x0, r.y0⟩, ⟨r.x1, r.y0⟩, ⟨r.x1, r.y1⟩, ⟨r.x0, r.y1⟩]

/-- Sines and cosines of the quarter turns from none to a full one.  In double precision a quarter
turn is not quite right, which is why some of them are not quite zero. -/
def quarterTurns : List (R × R) :=
  [(0.0, 1.0), (1.0, 6.123233995736766e-17), (1.2246467991473532e-16, -1.0),
    (-1.0, -1.8369701987210297e-16), (0.0, 1.0)]

/-- The control points of a quarter of the unit circle lie this far from its ends. -/
def quarterHandle : R := 0.551915024494

/-- The curve from one quarter turn to the next. -/
def quarterArc (center : Point R) (radius : R) (turn next : R × R) : PathStep R :=
  let (s₀, c₀) := turn
  let (s₁, c₁) := next
  let a : R := quarterHandle
  .curve ⟨center.x + radius * (c₀ - a * s₀), center.y + radius * (s₀ + a * c₀)⟩
    ⟨center.x + radius * (c₁ + a * s₁), center.y + radius * (s₁ - a * c₁)⟩
    ⟨center.x + radius * c₁, center.y + radius * s₁⟩

/-- A circle as four curves. -/
def circle (center : Point R) (radius : R) : Path R :=
  .move ⟨center.x + radius, center.y⟩ ::
    (quarterTurns.zip (quarterTurns.drop 1)).map (fun (turn, next) =>
      quarterArc center radius turn next) ++ [.close]

/-- The path moved by an offset. -/
def translate (offset : Point R) (path : Path R) : Path R :=
  path.map fun
    | .move p => .move (p.translate offset)
    | .line p => .line (p.translate offset)
    | .curve c₁ c₂ p => .curve (c₁.translate offset) (c₂.translate offset) (p.translate offset)
    | .close => .close

/-! ## Notation -/

/-- A point as two numbers with a comma between. -/
def pointText (p : Point R) : String := Scalar.text p.x ++ "," ++ Scalar.text p.y

/-- A movement as a letter and its points. -/
def stepText : PathStep R → String
  | .move p => "M" ++ pointText p
  | .line p => "L" ++ pointText p
  | .curve c₁ c₂ p => "C" ++ pointText c₁ ++ " " ++ pointText c₂ ++ " " ++ pointText p
  | .close => "Z"

/-- The notation of a path in vector graphics. -/
def text (path : Path R) : String := " ".intercalate (path.map stepText)

end Path

end Charting
