import Charting.Interaction.Params
import Charting.Scene.Compile

/-!
# Live charts

A live chart is a chart with its current parameters and its current scene.  Setting a parameter
filters the data anew and compiles a new scene, unless the same rows are left as before, and tells
all subscribers.  If anything fails the chart stays as it was.
-/

namespace Charting

/-- Someone who is told of new scenes. -/
structure Subscriber where
  /-- What identifies the subscription. -/
  id : Nat
  /-- The name of the subscriber. -/
  name : String
deriving DecidableEq, Repr

/-- A chart that follows its parameters. -/
structure LiveChart (R : Type) where
  /-- The chart. -/
  spec : ChartSpec R
  /-- The data before filtering. -/
  data : Dataset R
  /-- The defaults. -/
  config : Config R
  /-- How texts are measured. -/
  measurer : TextMeasurer R
  /-- The current values of the parameters. -/
  params : ParamStore R
  /-- The current scene. -/
  scene : Scene R
  /-- The keys of the rows that pass the filters. -/
  filteredKeys : List Nat
  /-- The subscribers, in the order of subscription. -/
  subscribers : List Subscriber
  /-- What will identify the next subscription; no subscription has had it. -/
  nextId : Nat

/-- What a subscriber is told. -/
structure Notification (R : Type) where
  /-- Who is told. -/
  subscriber : Subscriber
  /-- The scene. -/
  scene : Scene R

/-- What setting a parameter of a chart in place comes to. -/
structure Assignment (R : Type) where
  /-- The new scene, or why there is none. -/
  answer : Except (CompileError R) (Scene R)
  /-- The chart afterwards. -/
  chart : LiveChart R
  /-- What the subscribers are told, in order. -/
  told : List (Notification R)

variable {R : Type} [Scalar R]

/-- The scene of a chart with its parameters at their initial values. -/
def ChartSpec.initialScene (spec : ChartSpec R) (data : Dataset R) (config : Config R)
    (measurer : TextMeasurer R) : Except (CompileError R) (Scene R) := do
  let params ← ParamStore.ofSpecs spec.params
  let filtered ← spec.filterData data params.get?
  spec.compile filtered config measurer

namespace LiveChart

/-- A chart with its parameters at their initial values. -/
def start (spec : ChartSpec R) (data : Dataset R) (config : Config R) (measurer : TextMeasurer R) :
    Except (CompileError R) (LiveChart R) := do
  let params ← ParamStore.ofSpecs spec.params
  let filtered ← spec.filterData data params.get?
  let scene ← spec.compile filtered config measurer
  .ok
    { spec := spec
      data := data
      config := config
      measurer := measurer
      params := params
      scene := scene
      filteredKeys := filtered.keys
      subscribers := []
      nextId := 0 }

/-- The chart with the scene of its current parameters.  The scene is made anew only if other rows
pass the filters than before. -/
def refresh (c : LiveChart R) : Except (CompileError R) (LiveChart R) := do
  let filtered ← c.spec.filterData c.data c.params.get?
  if filtered.keys = c.filteredKeys then .ok c
  else
    let scene ← c.spec.compile filtered c.config c.measurer
    .ok { c with scene := scene, filteredKeys := filtered.keys }

/-- What the subscribers are told about the current scene. -/
def notifications (c : LiveChart R) : List (Notification R) :=
  c.subscribers.map fun s => ⟨s, c.scene⟩

/-- Sets a parameter of a copy of the chart; the second component is what the subscribers
are told. -/
def set (c : LiveChart R) (name : String) (v : Value R) :
    Except (CompileError R) (LiveChart R × List (Notification R)) := do
  let (_, params) ← c.params.set name v
  let c ← { c with params := params }.refresh
  .ok (c, c.notifications)

/-- Sets a parameter in place.  Filters read the new value from the store, so it is written before
anything can fail; the previous value is put back if filtering or compilation fails. -/
def assign (c : LiveChart R) (name : String) (v : Value R) : Assignment R :=
  match c.params.set name v with
  | .error e => ⟨.error e, c, []⟩
  | .ok (previous, params) =>
    let written := { c with params := params }
    match written.refresh with
    | .error e => ⟨.error e, { written with params := params.restore name previous }, []⟩
    | .ok c => ⟨.ok c.scene, c, c.notifications⟩

/-- Adds a subscriber; the first component identifies the subscription. -/
def subscribe (c : LiveChart R) (name : String) : Nat × LiveChart R :=
  (c.nextId,
    { c with subscribers := c.subscribers ++ [⟨c.nextId, name⟩], nextId := c.nextId + 1 })

/-- Removes a subscriber; the first component tells whether there was one. -/
def unsubscribe (c : LiveChart R) (id : Nat) : Bool × LiveChart R :=
  (c.subscribers.any (·.id == id),
    { c with subscribers := c.subscribers.filter (·.id != id) })

end LiveChart

end Charting
