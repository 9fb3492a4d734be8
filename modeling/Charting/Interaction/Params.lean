import Charting.Spec.Chart
import Charting.Spec.Error

/-!
# Parameters

A `ParamStore` holds the current value of every declared parameter.  A value is accepted only if the
control of the parameter can show it; values of a slider move to the nearest point of its grid.
-/

namespace Charting

/-- The declared parameters and their current values. -/
structure ParamStore (R : Type) where
  /-- Each parameter with its value, in the order of declaration. -/
  entries : List (ParamSpec R × Value R)
deriving BEq, DecidableEq, Repr

variable {R : Type} [Scalar R]

/-- The point nearest to `v` of the grid that starts at `min`, but for points beyond `max`.  Without
a positive step there is no grid. -/
def snapToGrid (v min max : R) (step : Option R) : R :=
  match step.filter fun s => Scalar.isFinite s && 0.0 < s with
  | none => v
  | some step =>
    let snapped := min + Scalar.round ((v - min) / step) * step
    if max < snapped then snapped - step else snapped

/-- The truth value that a value stands for. -/
def Value.toBool? : Value R → Option Bool
  | .number x => if x == 1.0 then some true else if x == 0.0 then some false else none
  | .string "true" => some true
  | .string "false" => some false
  | _ => none

namespace ParamBind

/-- The value that a slider takes for an input, or what is wrong with the input. -/
def slide (min max : R) (step : Option R) (v : Value R) : Except String (Value R) :=
  match v.toFinite? with
  | none => .error ("`" ++ v.text ++ "` is not a number")
  | some x =>
    if x < min || max < x then
      .error (Scalar.text x ++ " is outside [" ++ Scalar.text min ++ ", " ++ Scalar.text max ++ "]")
    else .ok (.number (snapToGrid x min max step))

/-- The value that a control takes for an input, or what is wrong with the input. -/
def accept (bind : ParamBind R) (v : Value R) : Except String (Value R) :=
  match bind with
  | slider min max step => slide min max step v
  | select options =>
    if options.any fun o => o.key = v.key then .ok v
    else .error ("`" ++ v.text ++ "` is not an option")
  | checkbox =>
    match v.toBool? with
    | some b => .ok (.string (if b then "true" else "false"))
    | none => .error ("`" ++ v.text ++ "` is not a boolean")

end ParamBind

/-- The value that a parameter takes for an input. -/
def ParamSpec.accept (p : ParamSpec R) (v : Value R) : Except (CompileError R) (Value R) :=
  match p.bind with
  | none => .ok v
  | some bind => (bind.accept v).mapError (.invalidParamValue p.name)

namespace ParamStore

/-- Puts a parameter in the place of one of the same name, or at the end. -/
def declare (p : ParamSpec R) (v : Value R) :
    List (ParamSpec R × Value R) → List (ParamSpec R × Value R)
  | [] => [(p, v)]
  | (q, w) :: rest => if q.name = p.name then (p, v) :: rest else (q, w) :: declare p v rest

/-- The store with the initial values of parameters.  A name that is declared again replaces the
earlier declaration. -/
def ofSpecs (specs : List (ParamSpec R)) : Except (CompileError R) (ParamStore R) := do
  let entries ← specs.foldlM (fun entries p => do
    let v ← p.accept p.value
    .ok (declare p v entries)) []
  .ok ⟨entries⟩

/-- The parameter with a name and its value. -/
def entry? (s : ParamStore R) (name : String) : Option (ParamSpec R × Value R) :=
  s.entries.find? (·.1.name == name)

/-- The current value of a parameter. -/
def get? (s : ParamStore R) (name : String) : Option (Value R) := (s.entry? name).map (·.2)

/-- Replaces the value of the first parameter with a name. -/
def put (name : String) (v : Value R) :
    List (ParamSpec R × Value R) → List (ParamSpec R × Value R)
  | [] => []
  | (p, w) :: rest => if p.name = name then (p, v) :: rest else (p, w) :: put name v rest

/-- Sets a parameter; the first component is its previous value. -/
def set (s : ParamStore R) (name : String) (v : Value R) :
    Except (CompileError R) (Value R × ParamStore R) :=
  match s.entry? name with
  | none => .error (.unknownParam name)
  | some (p, previous) => do
    let v ← p.accept v
    .ok (previous, ⟨put name v s.entries⟩)

/-- Puts back a value that a parameter has had; it is not checked again. -/
def restore (s : ParamStore R) (name : String) (v : Value R) : ParamStore R :=
  ⟨put name v s.entries⟩

/-- The names with their current values, in the order of declaration. -/
def values (s : ParamStore R) : List (String × Value R) := s.entries.map fun (p, v) => (p.name, v)

end ParamStore

end Charting
