import RecordRules.Schema.Entity
import RecordRules.Value.Written

/-!
# Calculated fields

`calculate` computes the calculated properties of an entity for one record.  Every expression sees
the data as it was given: a calculated value is not visible to another expression.  A property
whose expression fails is left as it was.

Every value that is set is reported in writing.  The report of an integer with too many digits
fails, and with it the whole computation.
-/

set_option autoImplicit false

namespace RecordRules
namespace Calculation

/-- The names that an expression of a calculated property can refer to: the fields of the record,
the record as `this`, and its parent record, if it has one, as `parent` and `$parent`. -/
def context (data : Fields Value) (parent : Option (Fields Value)) : Expression.Context :=
  let own := data.set "this" (.map data)
  match parent with
  | some p => (own.set "parent" (.map p)).set "$parent" (.map p)
  | none => own

/-- The value of a property, if it is calculated and its expression does not fail. -/
def value? (limits : Expression.Limits) (context : Expression.Context) (p : Property) :
    Option Value :=
  if p.type = .calculated then
    match p.expression? with
    | some expression =>
      if expression.isEmpty then none
      else (Expression.evaluate limits context expression).toOption
    | none => none
  else none

/-- Sets the value of a property, if it has one that can be written. -/
def setValue (limits : Expression.Limits) (context : Expression.Context) (result : Fields Value)
    (p : Property) : Result (Fields Value) :=
  match value? limits context p with
  | none => .ok result
  | some v =>
    match v.written? with
    | some _ => .ok (result.set p.name v)
    | none => .error ValueError.integerTextTooLong.toFailure

/-- The data of a record with every calculated property set that has a value. -/
def calculate (limits : Expression.Limits) (entity : Entity) (data : Fields Value)
    (parent : Option (Fields Value)) : Result (Fields Value) :=
  entity.properties.foldlM (setValue limits (context data parent)) data

end Calculation
end RecordRules
