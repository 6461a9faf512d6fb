import RecordRules.Schema.Checked

/-!
# Entities and their properties

An entity is a named list of properties, and possibly attached to a workflow.  Property names are
unique within it; `Entity.unique` carries that.

A property is described rather than enforced: records are maps without a fixed shape.  A calculated
property names the expression for its value.
-/

set_option autoImplicit false

namespace RecordRules

/-- What a property holds. -/
inductive PropertyType where
  | string
  | number
  | boolean
  | date
  | singleSelect
  | multiSelect
  | reference
  | calculated
deriving DecidableEq, Repr, Inhabited

/-- The name of a property type. -/
def PropertyType.label : PropertyType → String
  | .string => "string"
  | .number => "number"
  | .boolean => "boolean"
  | .date => "date"
  | .singleSelect => "singleSelect"
  | .multiSelect => "multiSelect"
  | .reference => "reference"
  | .calculated => "calculated"

/-- The property types. -/
def PropertyType.all : List PropertyType :=
  [.string, .number, .boolean, .date, .singleSelect, .multiSelect, .reference, .calculated]

/-- Whether a value fits a property type. -/
def PropertyType.accepts : PropertyType → Value → Bool
  | .string, .text _ => true
  | .number, .int _ => true
  | .number, .float _ => true
  | .number, .nan _ => true
  | .boolean, .bool _ => true
  | .date, .text _ => true
  | .date, .date _ => true
  | .date, .moment _ => true
  | .singleSelect, .text _ => true
  | .singleSelect, .list _ => true
  | .multiSelect, .text _ => true
  | .multiSelect, .list _ => true
  | .reference, .text _ => true
  | .calculated, _ => true
  | _, _ => false

/-- One property of an entity. -/
structure Property where
  name : String
  type : PropertyType
  label : Option String
  required : Bool
  readOnly : Bool
  denormalize : Bool
  calculation : Option String
  metadata : Fields Value
deriving Inhabited

namespace Property

/-- The name shown to people: the label, unless it is missing or empty. -/
def displayName (p : Property) : String :=
  match p.label with
  | some label => if label.isEmpty then p.name else label
  | none => p.name

/-- The expression of a calculated property: its own, or the one in its metadata. -/
def expression? (p : Property) : Option String :=
  match p.calculation with
  | some expression =>
    if expression.isEmpty then inMetadata else some expression
  | none => inMetadata
where
  /-- The expression in the metadata, if it is a text. -/
  inMetadata : Option String :=
    match p.metadata.get? "expression" with
    | some (.text expression) => some expression
    | _ => none

/-- A name that is not blank, without blanks around it. -/
def checkName (v : Value) : Checked String :=
  (Shape.text v).andThen fun name =>
    if Text.allBlank name then .wrong (.rule "Property name cannot be empty")
    else .valid (Text.trimmed name)

/-- Every calculated property needs an expression. -/
def expressionRule (p : Property) : Option String :=
  if p.type = .calculated && (p.expression?.getD "").isEmpty then
    some s!"Calculated property '{p.name}' requires a calculation expression"
  else none

/-- Reads a property. -/
def check (fields : Fields Value) : Checked Property :=
  (Property.mk <$> Shape.required fields "property_name" checkName
    <*> Shape.defaulted fields "property_type" .string
      (Shape.oneOf PropertyType.all PropertyType.label)
    <*> Shape.optional fields "label" Shape.text
    <*> Shape.defaulted fields "required" false Shape.truth
    <*> Shape.defaulted fields "read_only" false Shape.truth
    <*> Shape.defaulted fields "denormalize" false Shape.truth
    <*> Shape.optional fields "calculation_expression" Shape.text
    <*> Shape.defaulted fields "metadata" [] Shape.map).ensure expressionRule

/-- A property as a map. -/
def toFields (p : Property) : Fields Value :=
  [("property_name", .text p.name),
   ("property_type", .text p.type.label),
   ("label", .ofText? p.label),
   ("required", .bool p.required),
   ("read_only", .bool p.readOnly),
   ("denormalize", .bool p.denormalize),
   ("calculation_expression", .ofText? p.calculation),
   ("metadata", .map p.metadata)]

end Property

/-- An entity and its properties in their order. -/
structure Entity where
  id : String
  name : String
  properties : List Property
  workflowId : Option String
  /-- Property names are unique. -/
  unique : (properties.map Property.name).Nodup

namespace Entity

instance : Inhabited Entity := ⟨"", "", [], none, by simp⟩

/-- The property of a name. -/
def property? (e : Entity) (name : String) : Option Property :=
  e.properties.find? fun p => p.name == name

/-- Reads properties with unique names. -/
def checkProperties (v : Value) :
    Checked { ps : List Property // (ps.map Property.name).Nodup } :=
  (Shape.items (Shape.model Property.check) v).andThen fun ps =>
    if h : (ps.map Property.name).Nodup then .valid ⟨ps, h⟩
    else .wrong (.rule "All property names must be unique")

/-- Reads an entity. -/
def check (fields : Fields Value) : Checked Entity :=
  (fun id name (ps : { ps : List Property // (ps.map Property.name).Nodup }) workflowId =>
      Entity.mk id name ps.1 workflowId ps.2)
    <$> Shape.required fields "entity_id" Shape.text
    <*> Shape.required fields "name" Shape.text
    <*> Shape.defaulted fields "properties" ⟨[], by simp⟩ checkProperties
    <*> Shape.optional fields "workflow_id" Shape.text

/-- An entity as a map. -/
def toFields (e : Entity) : Fields Value :=
  [("entity_id", .text e.id),
   ("name", .text e.name),
   ("properties", .list (e.properties.map fun p => .map p.toFields)),
   ("workflow_id", .ofText? e.workflowId)]

end Entity
end RecordRules
