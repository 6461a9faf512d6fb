import RecordRules.Failure
import RecordRules.Text.Split

/-!
# Assignment

The fields of a described thing can be assigned afterwards.  The new values are not checked, but the
fields have to exist, and some things never change once they are described.  What follows from the
fields cannot be assigned at all.

* `Schema.assign` assigns fields.
* What follows from the fields of a thing then has to be read off values of any type: `displayName`,
  `expression`, `isRestricted`, `hasDefault`, `appliesTo` and `property`.
-/

set_option autoImplicit false

namespace RecordRules
namespace Schema

/-- The names of what follows from the fields of a thing of a model. -/
def derivedNames (model : String) : List String :=
  ["model_extra", "model_fields_set", "__fields_set__"] ++
    match model with
    | "PropertyDefinition" => ["display_name", "effective_expression"]
    | "MeasureParameter" => ["has_default"]
    | "WorkflowTransition" => ["has_role_restriction"]
    | "AppConfig" => ["database_type", "is_sqlite", "is_production"]
    | _ => []

/-- What is wrong with a note under one of the names that every thing has. -/
def noteProblem? (model name : String) (v : Value) : Option Failure :=
  match name, v with
  | "__class__", v =>
    some (.ofMishap .type s!"__class__ must be set to a class, not '{v.typePath}' object")
  | "__dict__", .map _ => none
  | "__dict__", v =>
    some (.ofMishap .type s!"__dict__ must be set to a dictionary, not a '{v.typePath}'")
  | "__weakref__", _ =>
    some (.ofMishap .attribute s!"attribute '__weakref__' of '{model}' objects is not writable")
  | _, _ => none

/-- Assigns a field of a thing of a model.  A name that begins with an underscore is no field, but
a note on the thing, which nothing shows. -/
def assignOne (model : String) (frozen : Bool) (fields : Fields Value) (change : String × Value) :
    Result (Fields Value) :=
  let (name, value) := change
  let isNote := name.toList.head? == some '_'
  if frozen && !isNote then .error (.violations model [⟨[.field name], .frozen⟩])
  else if (derivedNames model).contains name then
    .error (.ofMishap .attribute s!"property '{name}' of '{model}' object has no setter")
  else if isNote then
    match noteProblem? model name value with
    | some problem => .error problem
    | none => .ok fields
  else if fields.has name then .ok (fields.set name value)
  else .error (.ofMishap .value s!"\"{model}\" object has no field \"{name}\"")

/-- Assigns fields of a thing of a model, one after the other. -/
def assign (model : String) (frozen : Bool) (fields changes : Fields Value) :
    Result (Fields Value) :=
  changes.foldlM (assignOne model frozen) fields

/-! ## What follows from assigned fields -/

/-- The value of a field. -/
def value (fields : Fields Value) (name : String) : Value := (fields.get? name).getD .null

/-- The name of a property shown to people. -/
def displayName (fields : Fields Value) : Value :=
  let label := value fields "label"
  if label.isPresent then label else value fields "property_name"

/-- The expression of a property: its own, or the text in its metadata. -/
def expression (fields : Fields Value) : Result Value :=
  let own := value fields "calculation_expression"
  if own.isPresent then .ok own
  else
    match value fields "metadata" with
    | .map entries =>
      match Fields.get? entries "expression" with
      | some (.text s) => .ok (.text s)
      | _ => .ok .null
    | other => .error (.noAttribute other "get")

/-- Whether a transition is for some roles only. -/
def isRestricted (fields : Fields Value) : Bool := (value fields "allowed_roles").isPresent

/-- Whether a parameter has a default. -/
def hasDefault (fields : Fields Value) : Bool :=
  match value fields "default" with
  | .null => false
  | _ => true

/-- Whether an event is among the events of a rule. -/
def isAmong (event : Value) : Value → Result Bool
  | .list items => .ok (items.any (Value.sameItem event))
  | .tuple items => .ok (items.any (Value.sameItem event))
  | .map entries =>
    match event with
    | .text s => .ok (Fields.has entries s)
    | _ => .ok false
  | .text events =>
    match event with
    | .text s => .ok (Text.occurs s.toList events.toList)
    | other =>
      .error (.ofMishap .type
        s!"'in <string>' requires string as left operand, not {other.typePath}")
  | other => .error (.noItems other)

/-- Whether a rule runs on an event; a rule without events runs on every one. -/
def appliesTo (fields : Fields Value) (event : Value) : Result Bool :=
  let events := value fields "trigger_events"
  if events.isPresent then isAmong event events else .ok true

/-- The property of a name among properties that have been assigned.  A description in their place
has no name. -/
def property (fields : Fields Value) : Result Value :=
  match value fields "properties" with
  | .list [] | .tuple [] => .ok .null
  | .map [] => .ok .null
  | .text "" => .ok .null
  | .list (first :: _) | .tuple (first :: _) => .error (.noAttribute first "property_name")
  | .map _ | .text _ => .error (.noAttribute (.text "") "property_name")
  | other => .error (.noElements other)

end Schema
end RecordRules
