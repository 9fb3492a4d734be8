import Charting.Data.Dataset
import Charting.Spec.Error

/-!
# Inference of levels of measurement

A field whose level is not declared is quantitative if all its values are numbers or read as such,
temporal if all are times or read as such, and nominal otherwise.  Missing values say nothing.  The
values are looked at one after another, and no longer than the answer is open.
-/

namespace Charting

variable {R : Type} [Scalar R]

namespace Value

/-- Whether a value speaks for a quantitative field: a finite number, or a text that reads
as one. -/
def isNumeric : Value R → Bool
  | number x => Scalar.isFinite x
  | string s => (toFinite? (string s : Value R)).isSome
  | _ => false

/-- Whether a value speaks for a temporal field: a time, or a text that reads as one. -/
def isTemporal : Value R → Bool
  | time _ => true
  | string s => (Timestamp.read? s).isSome
  | _ => false

end Value

namespace DataType

/-- The level of measurement that values show after others, of which it is known whether there were
any, and whether all of them were numbers or all of them were times.  When neither is left, the rest
is not looked at. -/
def inferAfter (seen numbers times : Bool) : List (Value R) → DataType
  | [] => if !seen then nominal else if numbers then quantitative else temporal
  | v :: rest =>
    if v.isNull then inferAfter seen numbers times rest
    else
      let numbers := numbers && v.isNumeric
      let times := times && v.isTemporal
      if !numbers && !times then nominal else inferAfter true numbers times rest

/-- The level of measurement that values show. -/
def infer (values : List (Value R)) : DataType := inferAfter false true true values

/-- The level of a field: what is declared with its use, or with the field, or else what its values
show. -/
def classify (field : Field) (values : List (Value R)) (declared : Option DataType) : DataType :=
  match declared, field.declared with
  | some t, _ => t
  | none, some t => t
  | none, none => infer values

end DataType

/-- Fails if a channel cannot show a field of the given level. -/
def Channel.checkAccepts (c : Channel) (t : DataType) : Except (CompileError R) Unit :=
  if c.accepts t then .ok () else .error (.incompatibleType c t)

end Charting
