/-!
# Marks

The graphical objects that rows are drawn as.
-/

namespace Charting

/-- A kind of graphical object. -/
inductive MarkKind where
  /-- The region between a line and its baseline. -/
  | area
  /-- A rectangle from a baseline to a value. -/
  | bar
  /-- A disc. -/
  | circle
  /-- A line through many rows. -/
  | line
  /-- A symbol whose shape can be bound. -/
  | point
  /-- A rectangle over a band or a cell. -/
  | rect
  /-- A straight line. -/
  | rule
  /-- A square. -/
  | square
  /-- A label. -/
  | text
  /-- A short line across a position. -/
  | tick
deriving DecidableEq, Repr, Inhabited

namespace MarkKind

/-- All kinds. -/
def all : List MarkKind := [area, bar, circle, line, point, rect, rule, square, text, tick]

/-- The name in documents. -/
def name : MarkKind → String
  | area => "area"
  | bar => "bar"
  | circle => "circle"
  | line => "line"
  | point => "point"
  | rect => "rect"
  | rule => "rule"
  | square => "square"
  | text => "text"
  | tick => "tick"

/-- The kind with a name. -/
def ofName? (s : String) : Option MarkKind := all.find? (·.name == s)

/-- Whether marks of this kind are filled unless told otherwise. -/
def isFilled : MarkKind → Bool
  | area | bar | circle | rect | square | text => true
  | line | point | rule | tick => false

/-- Whether a mark of this kind goes through many rows. -/
def isSeries : MarkKind → Bool
  | area | line => true
  | _ => false

end MarkKind

/-- A mark with its options. -/
structure MarkSpec where
  /-- The kind. -/
  kind : MarkKind
  /-- Whether it is filled, if that is said. -/
  filled : Option Bool
deriving DecidableEq, Repr

/-- Whether the mark is filled. -/
def MarkSpec.isFilled (m : MarkSpec) : Bool := m.filled.getD m.kind.isFilled

end Charting
