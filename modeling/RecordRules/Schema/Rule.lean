import RecordRules.Schema.Checked

/-!
# Rules and issues

A rule is a check attached to a property, an entity or a transition.  What failed is reported as an
issue.
-/

set_option autoImplicit false

namespace RecordRules

/-- Where a rule applies. -/
inductive Scope where
  | field
  | entity
  | crossEntity
  | transition
deriving DecidableEq, Repr, Inhabited

/-- The name of a scope. -/
def Scope.label : Scope → String
  | .field => "FIELD"
  | .entity => "ENTITY"
  | .crossEntity => "CROSS_ENTITY"
  | .transition => "WORKFLOW_TRANSITION"

/-- The scopes. -/
def Scope.all : List Scope := [.field, .entity, .crossEntity, .transition]

/-- How a rule checks. -/
inductive RuleType where
  | required
  | type
  | range
  | length
  | pattern
  | expression
  | custom
deriving DecidableEq, Repr, Inhabited

/-- The name of a rule type. -/
def RuleType.label : RuleType → String
  | .required => "REQUIRED"
  | .type => "TYPE"
  | .range => "RANGE"
  | .length => "LENGTH"
  | .pattern => "PATTERN"
  | .expression => "EXPRESSION"
  | .custom => "CUSTOM"

/-- The rule types. -/
def RuleType.all : List RuleType :=
  [.required, .type, .range, .length, .pattern, .expression, .custom]

/-- A check attached to a property, an entity or a transition. -/
structure Rule where
  id : String
  entityId : String
  propertyName : Option String
  name : String
  scope : Scope
  type : RuleType
  expression : Option String
  errorMessage : Option String
  errorMessageKey : Option String
  triggerEvents : List String
  metadata : Fields Value
deriving Inhabited

namespace Rule

/-- Whether the rule runs on an event; a rule without events runs on every one. -/
def appliesTo (r : Rule) (event : Option String) : Bool :=
  r.triggerEvents.isEmpty ||
    match event with
    | some e => r.triggerEvents.contains e
    | none => false

/-- A rule about a field names its property. -/
def propertyRule (r : Rule) : Option String :=
  if r.scope = .field && (r.propertyName.getD "").isEmpty then
    some s!"Field rule '{r.name}' must name a property"
  else none

/-- Reads a rule. -/
def check (fields : Fields Value) : Checked Rule :=
  (Rule.mk <$> Shape.required fields "rule_id" Shape.text
    <*> Shape.required fields "entity_id" Shape.text
    <*> Shape.optional fields "property_name" Shape.text
    <*> Shape.required fields "rule_name" Shape.text
    <*> Shape.required fields "scope" (Shape.oneOf Scope.all Scope.label)
    <*> Shape.required fields "rule_type" (Shape.oneOf RuleType.all RuleType.label)
    <*> Shape.optional fields "expression" Shape.text
    <*> Shape.optional fields "error_message" Shape.text
    <*> Shape.optional fields "error_message_key" Shape.text
    <*> Shape.defaulted fields "trigger_events" [] (Shape.items Shape.text)
    <*> Shape.defaulted fields "metadata" [] Shape.map).ensure propertyRule

/-- A rule as a map. -/
def toFields (r : Rule) : Fields Value :=
  [("rule_id", .text r.id),
   ("entity_id", .text r.entityId),
   ("property_name", .ofText? r.propertyName),
   ("rule_name", .text r.name),
   ("scope", .text r.scope.label),
   ("rule_type", .text r.type.label),
   ("expression", .ofText? r.expression),
   ("error_message", .ofText? r.errorMessage),
   ("error_message_key", .ofText? r.errorMessageKey),
   ("trigger_events", .list (r.triggerEvents.map .text)),
   ("metadata", .map r.metadata)]

end Rule

/-- A failed check. -/
structure Issue where
  ruleId : Option String
  propertyName : Option String
  message : String
  messageKey : Option String
  level : Scope
deriving DecidableEq, Repr, Inhabited

namespace Issue

/-- Reads an issue. -/
def check (fields : Fields Value) : Checked Issue :=
  Issue.mk <$> Shape.optional fields "rule_id" Shape.text
    <*> Shape.optional fields "property_name" Shape.text
    <*> Shape.required fields "message" Shape.text
    <*> Shape.optional fields "message_key" Shape.text
    <*> Shape.defaulted fields "level" .field (Shape.oneOf Scope.all Scope.label)

/-- An issue as a map. -/
def toFields (i : Issue) : Fields Value :=
  [("rule_id", .ofText? i.ruleId),
   ("property_name", .ofText? i.propertyName),
   ("message", .text i.message),
   ("message_key", .ofText? i.messageKey),
   ("level", .text i.level.label)]

/-- An issue as a value. -/
def toValue (i : Issue) : Value := .map i.toFields

end Issue
end RecordRules
