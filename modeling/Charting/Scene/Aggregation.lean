import Charting.Data.Aggregate
import Charting.Spec.Chart
import Charting.Spec.Error

/-!
# Aggregated views

A view whose bindings ask for summaries is drawn over aggregated data.  Rows are grouped by all
fields that are bound without a summary, and a binding with a summary is rewritten to show the
result.  Each row of the aggregated data remembers the rows that it stands for.
-/

namespace Charting

/-- A view and the data that it is drawn over. -/
structure PreparedView (R : Type) where
  /-- The view, without summaries. -/
  view : ViewSpec R
  /-- The data, aggregated if need be. -/
  data : Dataset R
  /-- The keys of the rows behind the key of each aggregated row; none if nothing is aggregated. -/
  sources : Option (List (Nat × List Nat))

variable {R : Type}

namespace FieldBinding

/-- A summary of a field. -/
def summary (op : AggregateOp) (field : String) : AggregateField :=
  if op = .count then .rowCount else .of op field

/-- The binding of the result of a summary.  The title still tells what is summarised. -/
def aggregated (b : FieldBinding R) : FieldBinding R :=
  match b.aggregate with
  | none => b
  | some op =>
    { b with
      field := (summary op b.field).output
      aggregate := none
      title := some b.titleText }

/-- Fails if the field is not there, unless rows are merely counted. -/
def checkField (data : Dataset R) (b : FieldBinding R) : Except (CompileError R) Unit :=
  if (data.columnIndex? b.field).isSome || b.aggregate = some .count then .ok ()
  else .error (.unknownField b.channel b.field)

end FieldBinding

namespace ViewSpec

/-- The fields that are bound. -/
def fieldBindings (view : ViewSpec R) : List (FieldBinding R) :=
  view.encodings.filterMap Binding.field?

/-- Whether a binding asks for a summary. -/
def isAggregated (view : ViewSpec R) : Bool := view.fieldBindings.any (·.aggregate.isSome)

/-- The names of the fields that rows are grouped by. -/
def groupNames (view : ViewSpec R) : List String :=
  distinctBy id ((view.fieldBindings.filter (·.aggregate.isNone)).map (·.field))

/-- The summaries that the bindings ask for, each result once. -/
def summaries (view : ViewSpec R) : List AggregateField :=
  distinctBy AggregateField.output
    (view.fieldBindings.filterMap fun b => b.aggregate.map (FieldBinding.summary · b.field))

/-- The view with the results of summaries in place of the summaries. -/
def aggregated (view : ViewSpec R) : ViewSpec R :=
  { view with
    encodings := view.encodings.map fun
      | .field b => .field b.aggregated
      | .constant c v => .constant c v }

variable [Scalar R]

/-- The keys of the rows of each group, in the order of the groups. -/
def groupMembers (view : ViewSpec R) (data : Dataset R) : Except DataError (List (List Nat)) := do
  let columns ← view.groupNames.mapM data.column
  let groups ← data.groupRows columns
  .ok (groups.map fun (_, rows) => rows.map (·.key))

/-- The view and the data that it is drawn over. -/
def prepare (view : ViewSpec R) (data : Dataset R) :
    Except (CompileError R) (PreparedView R) := do
  if !view.isAggregated then .ok ⟨view, data, none⟩
  else
    view.fieldBindings.forM (FieldBinding.checkField data)
    let result ← (data.aggregate view.groupNames view.summaries).mapError .data
    let members ← (view.groupMembers data).mapError .data
    .ok ⟨view.aggregated, result, some (result.keys.zip members)⟩

end ViewSpec

namespace PreparedView

/-- The keys of the rows that a row of the data stands for. -/
def sourceKeys (p : PreparedView R) (key : Nat) : List Nat :=
  match p.sources with
  | none => [key]
  | some sources => (sources.lookup key).getD []

end PreparedView

end Charting
