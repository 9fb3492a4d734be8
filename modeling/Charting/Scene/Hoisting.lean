import Charting.Guide.Generation

/-!
# Shared guides

An axis or a legend that all cells agree on is drawn once for the whole scene; the cells keep the
others.
-/

namespace Charting

variable {R : Type} [Scalar R]

namespace Guides

/-- The axis of a channel. -/
def axis? (g : Guides R) (channel : Channel) : Option (Axis R) :=
  g.axes.find? (·.channel == channel)

/-- The axis of a channel that all guides agree on, if they do. -/
def sharedAxis? (channel : Channel) : List (Guides R) → Option (Axis R)
  | [] => Option.none
  | g :: rest => do
    let first ← g.axis? channel
    if rest.all fun g => (g.axis? channel).any (·.same first) then some first else Option.none

/-- The axes that all guides agree on. -/
def sharedAxes (all : List (Guides R)) : List (Axis R) :=
  axisChannels.filterMap fun c => sharedAxis? c all

/-- The legends that all guides agree on. -/
def sharedLegends : List (Guides R) → List (Legend R)
  | [] => []
  | g :: rest => g.legends.filter fun l => rest.all fun g => g.legends.any (·.same l)

/-- The guides without those that are shared. -/
def own (axes : List (Axis R)) (legends : List (Legend R)) (g : Guides R) : Guides R :=
  { axes := g.axes.filter fun a => !axes.any (·.channel == a.channel)
    legends := g.legends.filter fun l => !legends.any (·.same l) }

end Guides

end Charting
