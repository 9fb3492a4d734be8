import Charting.Color.Parser
import Charting.Spec.Error
import Charting.Shape.Symbol

/-!
# Constants

What a constant means depends on the channel that it is bound to.
-/

namespace Charting

/-- The meaning of a constant. -/
inductive Constant (R : Type) where
  /-- A position, an area, an opacity or an order. -/
  | number (x : R)
  /-- A colour. -/
  | color (c : Color R)
  /-- A shape. -/
  | shape (s : Symbol)
  /-- A label. -/
  | text (s : String)
deriving BEq, Repr

namespace Constant

variable {R : Type}

/-- The number, if it is one. -/
def number? : Constant R → Option R
  | number x => some x
  | _ => none

/-- The colour, if it is one. -/
def color? : Constant R → Option (Color R)
  | color c => some c
  | _ => none

/-- The shape, if it is one. -/
def shape? : Constant R → Option Symbol
  | shape s => some s
  | _ => none

/-- The label, if it is one. -/
def text? : Constant R → Option String
  | text s => some s
  | _ => none

variable [Scalar R]

/-- The meaning of a value on a channel, if it has one.  A grid of charts needs a field to be split
by. -/
def read? (channel : Channel) (v : Value R) : Option (Constant R) :=
  match channel, v with
  | .x, v | .y, v | .order, v => v.toFinite?.map number
  | .size, v => (v.toFinite?.filter fun x => (0.0 : R) ≤ x).map number
  | .opacity, v => (v.toFinite?.filter fun x => (0.0 : R) ≤ x && x ≤ (1.0 : R)).map number
  | .color, .string s => (Color.read? s).map color
  | .shape, .string s => (Symbol.ofName? s).map shape
  | .tooltip, v | .text, v => some (text v.text)
  | _, _ => none

/-- The meaning of a value on a channel. -/
def parse (channel : Channel) (v : Value R) : Except (CompileError R) (Constant R) :=
  match read? channel v with
  | some c => .ok c
  | none => .error (.invalidConstant channel v.text)

end Constant

end Charting
