import RecordRules.Schema.Checked

/-!
# Measures

A measure is a named, versioned calculation with parameters.  Parameter names are unique within it;
`Measure.unique` carries that.
-/

set_option autoImplicit false

namespace RecordRules

/-- What a measure is declared to yield. -/
inductive ReturnType where
  | number
  | string
  | bool
  | date
  | reference
deriving DecidableEq, Repr, Inhabited

/-- The name of a return type. -/
def ReturnType.label : ReturnType → String
  | .number => "number"
  | .string => "string"
  | .bool => "bool"
  | .date => "date"
  | .reference => "reference"

/-- The return types. -/
def ReturnType.all : List ReturnType := [.number, .string, .bool, .date, .reference]

/-- A declared parameter of a measure. -/
structure Parameter where
  name : String
  default : Value
  type : Option String
deriving Inhabited

namespace Parameter

/-- The default, which null is not. -/
def default? (p : Parameter) : Option Value :=
  match p.default with
  | .null => none
  | v => some v

/-- Reads a parameter. -/
def check (fields : Fields Value) : Checked Parameter :=
  Parameter.mk <$> Shape.required fields "name" Shape.text
    <*> Shape.defaulted fields "default" .null Shape.any
    <*> Shape.optional fields "type" Shape.text

/-- A parameter as a map. -/
def toFields (p : Parameter) : Fields Value :=
  [("name", .text p.name), ("default", p.default), ("type", .ofText? p.type)]

end Parameter

/-- A named, versioned calculation with parameters. -/
structure Measure where
  id : Option String
  identifier : String
  version : Int
  name : Option String
  description : Option String
  parameters : List Parameter
  expression : String
  returnType : ReturnType
  /-- Parameter names are unique. -/
  unique : (parameters.map Parameter.name).Nodup

namespace Measure

instance : Inhabited Measure := ⟨none, "", 1, none, none, [], "", .number, by simp⟩

/-- Reads parameters with unique names. -/
def checkParameters (v : Value) :
    Checked { ps : List Parameter // (ps.map Parameter.name).Nodup } :=
  (Shape.items (Shape.model Parameter.check) v).andThen fun ps =>
    if h : (ps.map Parameter.name).Nodup then .valid ⟨ps, h⟩
    else .wrong (.rule "All parameter names must be unique")

/-- Reads a version, which starts at one. -/
def checkVersion (v : Value) : Checked Int :=
  (Shape.integer v).ensure fun n =>
    if n < 1 then some "Measure version must be at least 1" else none

/-- Reads a measure. -/
def check (fields : Fields Value) : Checked Measure :=
  (fun id identifier version name description
      (ps : { ps : List Parameter // (ps.map Parameter.name).Nodup }) expression returnType =>
      Measure.mk id identifier version name description ps.1 expression returnType ps.2)
    <$> Shape.optional fields "measure_id" Shape.text
    <*> Shape.required fields "identifier" Shape.text
    <*> Shape.required fields "version" checkVersion
    <*> Shape.optional fields "name" Shape.text
    <*> Shape.optional fields "description" Shape.text
    <*> Shape.defaulted fields "parameters" ⟨[], by simp⟩ checkParameters
    <*> Shape.required fields "expression" Shape.text
    <*> Shape.defaulted fields "return_type" .number (Shape.oneOf ReturnType.all ReturnType.label)

/-- A measure as a map. -/
def toFields (m : Measure) : Fields Value :=
  [("measure_id", .ofText? m.id),
   ("identifier", .text m.identifier),
   ("version", .int m.version),
   ("name", .ofText? m.name),
   ("description", .ofText? m.description),
   ("parameters", .list (m.parameters.map fun p => .map p.toFields)),
   ("expression", .text m.expression),
   ("return_type", .text m.returnType.label)]

end Measure

/-- A request to evaluate a measure, in its latest version if none is given. -/
structure MeasureRequest where
  identifier : String
  version : Option Int
  parameters : Fields Value
deriving Inhabited

namespace MeasureRequest

/-- Reads a request. -/
def check (fields : Fields Value) : Checked MeasureRequest :=
  MeasureRequest.mk <$> Shape.required fields "identifier" Shape.text
    <*> Shape.optional fields "version" Shape.integer
    <*> Shape.defaulted fields "parameters" [] Shape.map

/-- A request as a map. -/
def toFields (r : MeasureRequest) : Fields Value :=
  [("identifier", .text r.identifier),
   ("version", match r.version with
      | some n => .int n
      | none => .null),
   ("parameters", .map r.parameters)]

end MeasureRequest

/-- The value of an evaluated measure, and the version that produced it. -/
structure MeasureResult where
  identifier : String
  version : Int
  result : Value
deriving Inhabited

namespace MeasureResult

/-- Reads a result. -/
def check (fields : Fields Value) : Checked MeasureResult :=
  MeasureResult.mk <$> Shape.required fields "identifier" Shape.text
    <*> Shape.required fields "version" Shape.integer
    <*> Shape.defaulted fields "result" .null Shape.any

/-- A result as a map. -/
def toFields (r : MeasureResult) : Fields Value :=
  [("identifier", .text r.identifier), ("version", .int r.version), ("result", r.result)]

end MeasureResult
end RecordRules
