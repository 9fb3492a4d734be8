import Charting.Data.Dataset

/-!
# Document errors
-/

namespace Charting

/-- Why a document could not be read. -/
inductive DocumentError where
  /-- The text is not JSON, or a part of it is of the wrong type. -/
  | json
  /-- No mark has this name. -/
  | unknownMark (name : String)
  /-- No channel has this name. -/
  | unknownChannel (name : String)
  /-- No level of measurement has this name. -/
  | unknownType (name : String)
  /-- No summary has this name. -/
  | unknownAggregate (name : String)
  /-- An encoding has neither a field nor a value. -/
  | emptyBinding (channel : String)
  /-- A definition does not make sense. -/
  | invalid (what reason : String)
  /-- The data of the document could not be read. -/
  | data (cause : DataError)
deriving DecidableEq, Repr

/-- The wording of an error. -/
def DocumentError.message : DocumentError → String
  | json => "invalid chart JSON"
  | unknownMark name => "unknown mark `" ++ name ++ "`"
  | unknownChannel name => "unknown channel `" ++ name ++ "`"
  | unknownType name => "unknown data type `" ++ name ++ "`"
  | unknownAggregate name => "unknown aggregate `" ++ name ++ "`"
  | emptyBinding channel => "binding for `" ++ channel ++ "` needs a field or a value"
  | invalid what reason => "invalid `" ++ what ++ "` definition: " ++ reason
  | data cause => cause.message

end Charting
