import Charting.Data.Dataset
import Charting.Spec.Channel
import Charting.Spec.Mark

/-!
# Compilation errors
-/

namespace Charting

/-- Why a chart could not be compiled. -/
inductive CompileError (R : Type) where
  /-- A field is of a level that its channel cannot show. -/
  | incompatibleType (channel : Channel) (type : DataType)
  /-- A mark lacks channels that it needs. -/
  | missingRequiredChannel (mark : MarkKind) (channels : String)
  /-- The ends of a range are in the wrong order, or not finite. -/
  | invalidRange (channel : Channel) (min max : R)
  /-- A range is of a kind that does not suit its channel. -/
  | incompatibleRange (channel : Channel)
  /-- There are no values to make a domain of. -/
  | emptyDomain (channel : Channel) (field : String)
  /-- A given domain cannot be read. -/
  | invalidDomain (channel : Channel)
  /-- A binding names a field that is not there. -/
  | unknownField (channel : Channel) (field : String)
  /-- A channel is bound twice. -/
  | duplicateChannel (channel : Channel)
  /-- A constant cannot be shown on its channel. -/
  | invalidConstant (channel : Channel) (value : String)
  /-- No parameter has this name. -/
  | unknownParam (name : String)
  /-- A parameter cannot have this value. -/
  | invalidParamValue (name reason : String)
  /-- The data could not be filtered or aggregated. -/
  | data (cause : DataError)
deriving DecidableEq, Repr

/-- The wording of an error. -/
def CompileError.message {R : Type} [Scalar R] : CompileError R → String
  | incompatibleType channel type =>
    "channel `" ++ channel.name ++ "` cannot encode a " ++ type.name ++ " field"
  | missingRequiredChannel mark channels => "`" ++ mark.name ++ "` mark requires " ++ channels
  | invalidRange channel min max =>
    "range of `" ++ channel.name ++ "` is inverted: " ++ Scalar.text min ++ " > " ++
      Scalar.text max
  | incompatibleRange channel =>
    "range override does not fit the `" ++ channel.name ++ "` scale"
  | emptyDomain channel field =>
    "field `" ++ field ++ "` has no values usable by the `" ++ channel.name ++ "` scale"
  | invalidDomain channel => "explicit domain of `" ++ channel.name ++ "` is not usable"
  | unknownField channel field =>
    "channel `" ++ channel.name ++ "` references unknown field `" ++ field ++ "`"
  | duplicateChannel channel => "channel `" ++ channel.name ++ "` is bound more than once"
  | invalidConstant channel value =>
    "`" ++ value ++ "` is not a valid constant for channel `" ++ channel.name ++ "`"
  | unknownParam name => "unknown parameter `" ++ name ++ "`"
  | invalidParamValue name reason => "invalid value for parameter `" ++ name ++ "`: " ++ reason
  | data cause => cause.message

end Charting
