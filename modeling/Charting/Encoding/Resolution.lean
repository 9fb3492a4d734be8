import Charting.Encoding.Basic
import Charting.Encoding.Inference
import Charting.Scale.Synthesis
import Charting.Spec.Chart

/-!
# Resolution of bindings

`ViewSpec.resolve` turns the bindings of a view into encodings over some rows.  It fails with the
first binding that does not fit the data or its channel.
-/

namespace Charting

variable {R : Type}

/-- The first channel that occurs in a list again, or has been seen before. -/
def repeatedChannel? (seen : List Channel) : List Channel → Option Channel
  | [] => none
  | c :: rest => if c ∈ seen then some c else repeatedChannel? (c :: seen) rest

/-- Fails if a channel is bound twice; texts for hovering are collected and can be many. -/
def ViewSpec.checkChannels (view : ViewSpec R) : Except (CompileError R) Unit :=
  match repeatedChannel? [] ((view.encodings.map Binding.channel).filter (· != .tooltip)) with
  | some c => .error (.duplicateChannel c)
  | none => .ok ()

variable [Scalar R]

/-- The encoding of a field that is found in a column, over some values. -/
def FieldBinding.resolveIn (b : FieldBinding R) (mark : MarkKind) (column : Nat) (field : Field)
    (values : List (Value R)) (extent : Size R) (config : Config R) :
    Except (CompileError R) (FieldEncoding R) := do
  let type := DataType.classify field values b.type
  b.channel.checkAccepts type
  let request : ScaleRequest R :=
    { channel := b.channel
      field := b.field
      type := type
      quantitativeKind := field.kind
      mark := mark
      extent := extent }
  let scale ←
    if b.channel.hasScale then (request.synthesize values b.scale b.sort config).map some
    else .ok none
  .ok
    { binding := b
      column := column
      type := type
      quantitativeKind := field.kind
      scale := scale }

/-- The encoding of a field over some rows of a dataset with the given fields. -/
def FieldBinding.resolve (b : FieldBinding R) (mark : MarkKind) (data : Dataset R)
    (rows : List (Row R)) (extent : Size R) (config : Config R) :
    Except (CompileError R) (FieldEncoding R) := do
  let some column := data.columnIndex? b.field | .error (.unknownField b.channel b.field)
  let field := (data.field? b.field).getD (.untyped b.field)
  b.resolveIn mark column field (rows.filterMap (·.values[column]?)) extent config

/-- The encoding of a binding over some rows. -/
def Binding.resolve (b : Binding R) (mark : MarkKind) (data : Dataset R) (rows : List (Row R))
    (extent : Size R) (config : Config R) : Except (CompileError R) (Encoding R) :=
  match b with
  | constant channel v => (Constant.parse channel v).map (.constant channel)
  | field b => (b.resolve mark data rows extent config).map .field

/-- The encodings of a view over some rows, with positions within `extent`. -/
def ViewSpec.resolve (view : ViewSpec R) (data : Dataset R) (rows : List (Row R)) (extent : Size R)
    (config : Config R) : Except (CompileError R) (Encodings R) := do
  view.checkChannels
  view.encodings.mapM fun b => b.resolve view.mark.kind data rows extent config

end Charting
