import Charting.Shape.Path

/-!
# Symbols

The shapes of point-like marks.  The size of a symbol is its area, so that a value twice as large is
drawn with twice as much ink.
-/

namespace Charting

/-- A shape of point-like marks. -/
inductive Symbol where
  /-- A disc. -/
  | circle
  /-- A square along the axes. -/
  | square
  /-- A plus sign. -/
  | cross
  /-- A square on its corner. -/
  | diamond
  /-- An equilateral triangle on its base. -/
  | triangleUp
  /-- An equilateral triangle on its apex. -/
  | triangleDown
deriving DecidableEq, Repr, Inhabited

namespace Symbol

/-- All shapes, in the order in which they are assigned. -/
def all : List Symbol := [circle, square, cross, diamond, triangleUp, triangleDown]

/-- The name in documents. -/
def name : Symbol → String
  | circle => "circle"
  | square => "square"
  | cross => "cross"
  | diamond => "diamond"
  | triangleUp => "triangle-up"
  | triangleDown => "triangle-down"

/-- The shape with a name; a triangle points up unless told otherwise. -/
def ofName? (s : String) : Option Symbol :=
  if s = "triangle" then some triangleUp else all.find? (·.name == s)

variable {R : Type} [Scalar R]

/-- Half the circumference of the unit circle. -/
def pi : R := 3.141592653589793

/-- The radius of a circle with the given area. -/
def radius (area : R) : R := Scalar.sqrt (Scalar.max area 0.0 / pi)

/-- A triangle whose centre of mass is at `center`; `up` is one if it points up and minus one if it
points down. -/
def triangle (center : Point R) (area up : R) : Path R :=
  let side := Scalar.sqrt (4.0 * area / Scalar.sqrt 3.0)
  let height := side * Scalar.sqrt 3.0 * 0.5
  let apex := center.y - up * height * (2.0 / 3.0)
  let base := center.y + up * height / 3.0
  .polygon [⟨center.x, apex⟩, ⟨center.x + 0.5 * side, base⟩, ⟨center.x - 0.5 * side, base⟩]

/-- The outline of a shape around `center` that encloses the given area. -/
def path (shape : Symbol) (center : Point R) (area : R) : Path R :=
  let area := Scalar.max area 0.0
  let x := center.x
  let y := center.y
  match shape with
  | circle => .circle center (radius area)
  | square =>
    let h := 0.5 * Scalar.sqrt area
    .polygon [⟨x - h, y - h⟩, ⟨x + h, y - h⟩, ⟨x + h, y + h⟩, ⟨x - h, y + h⟩]
  | diamond =>
    let r := Scalar.sqrt (0.5 * area)
    .polygon [⟨x, y - r⟩, ⟨x + r, y⟩, ⟨x, y + r⟩, ⟨x - r, y⟩]
  | cross =>
    let a := Scalar.sqrt (area / 5.0)
    let h := 0.5 * a
    let o := 1.5 * a
    .polygon [⟨x - h, y - o⟩, ⟨x + h, y - o⟩, ⟨x + h, y - h⟩, ⟨x + o, y - h⟩, ⟨x + o, y + h⟩,
      ⟨x + h, y + h⟩, ⟨x + h, y + o⟩, ⟨x - h, y + o⟩, ⟨x - h, y + h⟩, ⟨x - o, y + h⟩,
      ⟨x - o, y - h⟩, ⟨x - h, y - h⟩]
  | triangleUp => triangle center area 1.0
  | triangleDown => triangle center area (-1.0)

/-- The longer side of the least rectangle around a shape. -/
def extent (shape : Symbol) (area : R) : R :=
  let box := (shape.path .origin area).boundingBox
  Scalar.max box.width box.height

end Symbol

end Charting
