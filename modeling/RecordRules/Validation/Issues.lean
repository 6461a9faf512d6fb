import RecordRules.Store.Records
import RecordRules.Validation.Check
import RecordRules.Validation.Context

/-!
# Validating records, fields and transitions

Every rule in force is checked on its own and contributes at most one issue.  A rule that cannot be
checked is an issue too and does not keep the others from being checked.

* `recordIssues` checks the rules about the fields of a record, in the order of its properties, then
  those about the record, then those across entities.
* `fieldIssues` checks the rules about one field for a value.
* `transitionIssues` checks the conditions of a transition, then the rules about transitions.
-/

set_option autoImplicit false

namespace RecordRules
namespace Validation

/-- What the checks of rules depend on beside the store. -/
structure Checker where
  limits : Expression.Limits := {}
  catalog : Catalog False := {}
  registry : Registry False := {}
deriving Inhabited

/-- The event of a check of a single field. -/
def updateEvent : String := "UPDATE"

/-- The event of a check before a transition. -/
def transitionEvent : String := "TRANSITION"

/-! ## Issues of single rules -/

/-- The wording of a rule for its issue, or the default. -/
def wording (rule : Rule) (default : String) : String :=
  match rule.errorMessage with
  | some message => if message.isEmpty then default else message
  | none => default

/-- The issue that a finding about a field amounts to. -/
def fieldIssue? (rule : Rule) (p : Property) : Finding → Option Issue
  | .ok none => none
  | .ok (some default) =>
    some { ruleId := some rule.id, propertyName := some p.name, message := wording rule default
           messageKey := rule.errorMessageKey, level := .field }
  | .error e =>
    some { ruleId := some rule.id, propertyName := some p.name
           message := s!"Validation error: {e.message}", messageKey := none, level := .field }

/-- Checks a value against a rule about a field. -/
def checkFieldRule (checker : Checker) (context : Expression.Context) (p : Property) (value : Value)
    (rule : Rule) : Option Issue × Checker :=
  let (finding, registry) :=
    checkValue checker.limits checker.registry checker.catalog rule p context value
  (fieldIssue? rule p finding, { checker with registry })

/-- The issue of a rule whose expression does not hold; a rule without one always does. -/
def expressionIssue? (limits : Expression.Limits) (context : Expression.Context) (level : Scope)
    (default : String) (rule : Rule) : Option Issue :=
  let expression := rule.expression.getD ""
  if expression.isEmpty || Expression.holds limits context expression then none
  else
    some { ruleId := some rule.id, propertyName := none, message := wording rule default
           messageKey := rule.errorMessageKey, level }

/-- The issue of a condition that is not met. -/
def conditionIssue? (limits : Expression.Limits) (context : Expression.Context)
    (condition : String) : Option Issue :=
  if Expression.holds limits context condition then none
  else
    some { ruleId := none, propertyName := none
           message := s!"Transition condition not met: {condition}", messageKey := none
           level := .transition }

/-! ## All issues -/

/-- Whether there is an entity of an id. -/
def findEntity (db : Database) (entityId : String) : Result Entity := do
  match ← db.getEntity entityId with
  | some entity => return entity
  | none =>
    throw (.fault (Fault.of .notFound s!"Entity not found: {entityId}"
      [("resource_type", .text "entity"), ("resource_id", .text entityId)]))

/-- Checks one thing after the other; what a check changes in the checker stays. -/
def collect {α : Type} (check : Checker → α → Option Issue × Checker) :
    Checker → List α → List Issue × Checker
  | checker, [] => ([], checker)
  | checker, a :: rest =>
    let (issue, next) := check checker a
    let (issues, last) := collect check next rest
    (issue.toList ++ issues, last)

/-- The rules about a field that run on an event, each with its property. -/
def fieldRules (db : Database) (entityId : String) (event : Option String) (p : Property) :
    Result (List (Property × Rule)) := do
  let rules ← db.getFieldRules entityId p.name
  return (rules.filter fun r => r.appliesTo event).map fun r => (p, r)

/-- The issues of the rules of a scope that run on an event. -/
def scopeIssues (db : Database) (limits : Expression.Limits) (context : Expression.Context)
    (entityId : String) (event : Option String) (scope : Scope) (default : String) :
    Result (List Issue) := do
  let rules ← db.getRulesByScope entityId scope
  return (rules.filter fun r => r.appliesTo event).filterMap
    (expressionIssue? limits context scope default)

/-- The issues of a record. -/
def recordIssues (db : Database) (checker : Checker) (entityId : String) (data : Fields Value)
    (event : Option String) (previous : Option (Fields Value)) :
    Result (List Issue × Checker) := do
  let entity ← findEntity db entityId
  let context := context entity (some data) previous event
  let rules ← entity.properties.mapM (fieldRules db entityId event)
  let (inFields, checker) := collect
    (fun checker (p, rule) =>
      checkFieldRule checker context p ((data.get? p.name).getD .null) rule)
    checker rules.flatten
  let inRecord ← scopeIssues db checker.limits context entityId event .entity
    "Entity validation failed"
  let acrossEntities ← scopeIssues db checker.limits context entityId event .crossEntity
    "Cross-entity validation failed"
  return (inFields ++ inRecord ++ acrossEntities, checker)

/-- The issues of a value for a field of a record. -/
def fieldIssues (db : Database) (checker : Checker) (entityId propertyName : String)
    (value : Value) (data : Fields Value) : Result (List Issue × Checker) := do
  let entity ← findEntity db entityId
  match entity.property? propertyName with
  | none =>
    throw (.fault ((Fault.of .notFound s!"Property not found: {propertyName}"
      [("resource_type", .text "property"), ("resource_id", .text propertyName)]).addContext
        [("entity_id", .text entityId)]))
  | some p =>
    let context := context entity (some (data.set propertyName value)) none (some updateEvent)
    let rules ← fieldRules db entityId (some updateEvent) p
    return collect (fun checker (p, rule) => checkFieldRule checker context p value rule) checker
      rules

/-- Whether a rule about transitions is about a given one; a rule that names none is about all. -/
def isAbout (transitionId : String) (rule : Rule) : Bool :=
  match rule.metadata.get? "transitionId" with
  | none => true
  | some (.text id) => id.isEmpty || id == transitionId
  | some other => !other.isPresent

/-- What keeps a transition from being made. -/
def transitionIssues (db : Database) (limits : Expression.Limits) (entityId : String)
    (data : Fields Value) (t : Transition) (actor : Option String)
    (previous : Option (Fields Value)) : Result (List Issue) := do
  let entity ← findEntity db entityId
  let context := transitionContext (context entity (some data) previous (some transitionEvent)) t
    actor
  let unmet := (t.conditions.getD []).filterMap (conditionIssue? limits context)
  let rules ← db.getRulesByScope entityId .transition
  let broken := (rules.filter fun r =>
      r.appliesTo (some transitionEvent) && isAbout t.id r).filterMap
    (expressionIssue? limits context .transition "Transition validation failed")
  return unmet ++ broken

end Validation
end RecordRules
