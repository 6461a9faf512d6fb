import RecordRules.Schema.Rule
import RecordRules.Schema.Entity
import RecordRules.Validator.Registry
import RecordRules.Pattern.Matcher

/-!
# What the rules about a field check

Each kind of rule is a check of one value.  A check finds nothing, or finds fault and says how in
its own words; it can also fail to check at all, for a bound that is no number, a pattern that is
none, or a validator that breaks.  Validators that exit take the whole program with them, so rules
are checked by such only as do not.

* `Finding` is what a check yields, `CheckError` why there is nothing to yield.
* `checkValue` makes the check of a rule.  Only a check by a validator needs the registry, and only
  it can change it, by loading a validator.
-/

set_option autoImplicit false

namespace RecordRules
namespace Validation

/-- Why a check cannot be made. -/
inductive CheckError where
  /-- The value or a bound cannot be computed with. -/
  | value (error : ValueError)
  /-- A bound has no numeric reading. -/
  | notNumeric (key shown : String)
  /-- A bound on the length is infinite. -/
  | infiniteLength
  /-- A bound on the length is no number at all. -/
  | undefinedLength
  /-- The pattern is none. -/
  | pattern (text : List Char) (error : Pattern.Error)
  /-- The name of the validator is no text. -/
  | unusableName (typeLabel : String)
  /-- The registry has no answer. -/
  | registry (error : RegistryError False)

/-- The wording of a check error. -/
def CheckError.message : CheckError → String
  | .value e => e.message
  | .notNumeric key shown => s!"Rule metadata '{key}' is not numeric: {shown}"
  | .infiniteLength => "cannot convert float infinity to integer"
  | .undefinedLength => "cannot convert float NaN to integer"
  | .pattern text e => e.message text
  | .unusableName typeLabel => s!"'{typeLabel}' object has no attribute 'strip'"
  | .registry e => e.toFailure.message

/-- What a check finds: nothing, or the default wording of what is wrong. -/
abbrev Finding := Except CheckError (Option String)

namespace Finding

/-- A finding of nothing. -/
def nothing : Finding := .ok none

/-- A finding that depends on a test: nothing if it passes. -/
def verdict (passed : Bool) (message : String) : Finding :=
  .ok (if passed then none else some message)

end Finding

/-- A computation with values as part of a check. -/
def ofValueError {α : Type} (e : Except ValueError α) : Except CheckError α := e.mapError .value

/-- The number that a rule gives under a key; null stands for none. -/
def bound? (rule : Rule) (key : String) : Except CheckError (Option Float) :=
  match rule.metadata.get? key with
  | none | some .null => .ok none
  | some raw => do
    match ← ofValueError raw.toNumber with
    | some x => return some x
    | none =>
      match raw.written? with
      | some shown => .error (.notNumeric key shown)
      | none => .error (.value .integerTextTooLong)

/-- Whether a rule gives a number under a key that is exceeded. -/
def breaks (rule : Rule) (key : String) (exceeded : Float → Except CheckError Bool) :
    Except CheckError Bool := do
  match ← bound? rule key with
  | some x => exceeded x
  | none => return false

/-- A bound on a length as an integer, cut towards zero. -/
def lengthBound (x : Float) : Except CheckError Int :=
  match Double.truncate? x with
  | some n => .ok n
  | none => .error (if x.isNaN then .undefinedLength else .infiniteLength)

/-! ## The checks -/

/-- The value is neither null nor a text of blanks. -/
def checkRequired (p : Property) : Value → Finding
  | .null => .verdict false s!"{p.displayName} is required"
  | .text s => .verdict (!Text.allBlank s) s!"{p.displayName} is required"
  | _ => .nothing

/-- The value fits the type of the property; null fits every type. -/
def checkType (p : Property) : Value → Finding
  | .null => .nothing
  | v => .verdict (p.type.accepts v) s!"{p.displayName} has invalid type"

/-- The value lies between the bounds `min` and `max`, if it has a numeric reading. -/
def checkRange (rule : Rule) (p : Property) (value : Value) : Finding :=
  if rule.metadata.isEmpty then .nothing
  else do
    match ← ofValueError value.toNumber with
    | none => return none
    | some x =>
      if ← breaks rule "min" fun least => .ok (x < least) then
        return some s!"{p.displayName} is below minimum"
      else if ← breaks rule "max" fun most => .ok (x > most) then
        return some s!"{p.displayName} is above maximum"
      else return none

/-- The length of a text lies between the bounds `minLength` and `maxLength`. -/
def checkLength (rule : Rule) (p : Property) : Value → Finding
  | .text s =>
    if rule.metadata.isEmpty then .nothing
    else do
      let length : Int := s.length
      if ← breaks rule "minLength" fun x => (lengthBound x).map fun least => length < least then
        return some s!"{p.displayName} is too short"
      else if ← breaks rule "maxLength" fun x => (lengthBound x).map fun most => length > most then
        return some s!"{p.displayName} is too long"
      else return none
  | _ => .nothing

/-- A text matches the pattern of the rule as a whole. -/
def checkPattern (rule : Rule) (p : Property) : Value → Finding
  | .text s =>
    match rule.metadata.get? "pattern" with
    | some (.text pattern) =>
      match Pattern.parse pattern.toList >>= (·.matches s.toList) with
      | .ok matched => .verdict matched s!"{p.displayName} does not match required pattern"
      | .error e => .error (.pattern pattern.toList e)
    | _ => .nothing
  | _ => .nothing

/-- The expression of the rule holds, where the value is known as `value` and under the name of its
property. -/
def checkExpression (limits : Expression.Limits) (rule : Rule) (p : Property)
    (context : Expression.Context) (value : Value) : Finding :=
  match rule.expression with
  | none => .nothing
  | some expression =>
    if expression.isEmpty then .nothing
    else
      .verdict
        (Expression.holds limits ((context.set p.name value).set "value" value) expression)
        s!"{p.displayName} validation failed"

/-- What the answer of a validator means: a text is the wording of what is wrong, anything else
passes unless it is empty or false. -/
def complaint? (p : Property) : Value → Option String
  | .text message => some message
  | answer => if answer.isPresent then none else some s!"{p.displayName} validation failed"

/-- The validator that the rule names passes the value. -/
def checkCustom (registry : Registry False) (catalog : Catalog False) (rule : Rule) (p : Property)
    (context : Expression.Context) (value : Value) : Finding × Registry False :=
  match rule.metadata.get? "validator" with
  | none => (.nothing, registry)
  | some (.text name) =>
    if name.isEmpty then (.nothing, registry)
    else
      let (answer, known) := registry.call catalog name value (context.set "value" value)
      ((answer.map (complaint? p)).mapError .registry, known)
  | some other =>
    (if other.isPresent then .error (.unusableName other.typeLabel) else .nothing, registry)

/-- Makes the check of a rule about a field. -/
def checkValue (limits : Expression.Limits) (registry : Registry False) (catalog : Catalog False)
    (rule : Rule) (p : Property) (context : Expression.Context) (value : Value) :
    Finding × Registry False :=
  match rule.type with
  | .required => (checkRequired p value, registry)
  | .type => (checkType p value, registry)
  | .range => (checkRange rule p value, registry)
  | .length => (checkLength rule p value, registry)
  | .pattern => (checkPattern rule p value, registry)
  | .expression => (checkExpression limits rule p context value, registry)
  | .custom => checkCustom registry catalog rule p context value

end Validation
end RecordRules
