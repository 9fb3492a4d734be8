import Charting.Data.Field

/-!
# Channels

The visual properties that data can be bound to.
-/

namespace Charting

/-- A visual property. -/
inductive Channel where
  /-- The horizontal position. -/
  | x
  /-- The vertical position. -/
  | y
  /-- The area of a symbol. -/
  | size
  /-- The colour of the fill or of the stroke. -/
  | color
  /-- The opacity, between zero and one. -/
  | opacity
  /-- The shape of a symbol. -/
  | shape
  /-- The text shown on hovering. -/
  | tooltip
  /-- The label of a text mark. -/
  | text
  /-- The order of drawing. -/
  | order
  /-- The column of a grid of charts. -/
  | column
  /-- The row of a grid of charts. -/
  | row
deriving DecidableEq, Repr, Inhabited

/-- What a channel is used for. -/
inductive ChannelRole where
  /-- A place on an axis. -/
  | position
  /-- An amount. -/
  | magnitude
  /-- A way to tell things apart. -/
  | identity
  /-- A text. -/
  | label
  /-- An order. -/
  | sequencing
  /-- A place in a grid of charts. -/
  | partition
deriving DecidableEq, Repr

namespace Channel

/-- All channels, in their usual order. -/
def all : List Channel :=
  [x, y, size, color, opacity, shape, tooltip, text, order, column, row]

/-- The name in documents. -/
def name : Channel → String
  | x => "x"
  | y => "y"
  | size => "size"
  | color => "color"
  | opacity => "opacity"
  | shape => "shape"
  | tooltip => "tooltip"
  | text => "text"
  | order => "order"
  | column => "column"
  | row => "row"

/-- The channel with a name. -/
def ofName? (s : String) : Option Channel := all.find? (·.name == s)

/-- What a channel is used for. -/
def role : Channel → ChannelRole
  | x | y => .position
  | size | opacity => .magnitude
  | color | shape => .identity
  | tooltip | text => .label
  | order => .sequencing
  | column | row => .partition

/-- Whether a field on this channel is drawn through a scale. -/
def hasScale (c : Channel) : Bool :=
  match c.role with
  | .position | .magnitude | .identity => true
  | .label | .sequencing | .partition => false

/-- Whether a channel can show a field of the given level. -/
def accepts (c : Channel) (t : DataType) : Bool :=
  match c with
  | x | y | color | tooltip | text | order => true
  | size | opacity => t != .nominal
  | shape => t == .nominal
  | column | row => t == .nominal || t == .ordinal

end Channel

end Charting
