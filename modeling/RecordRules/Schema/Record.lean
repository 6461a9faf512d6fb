import RecordRules.Schema.Workflow

/-!
# Records

A record is a map without a fixed shape, with a state in the workflow of its entity and a version
that counts its changes.
-/

set_option autoImplicit false

namespace RecordRules

/-- A record of an entity. -/
structure Record where
  id : String
  entityId : String
  data : Fields Value
  state : Option String
  version : Int
  createdBy : Option String
  updatedBy : Option String
  createdAt : Option Moment
  updatedAt : Option Moment
deriving Inhabited

/-- A moment that may be missing, as a value. -/
def Value.ofMoment? : Option Moment → Value
  | some time => .moment time
  | none => .null

namespace Record

/-- Reads a record. -/
def check (fields : Fields Value) : Checked Record :=
  Record.mk <$> Shape.required fields "record_id" Shape.text
    <*> Shape.required fields "entity_id" Shape.text
    <*> Shape.defaulted fields "data" [] Shape.map
    <*> Shape.optional fields "state" Shape.text
    <*> Shape.defaulted fields "version" 1 Shape.integer
    <*> Shape.optional fields "created_by" Shape.text
    <*> Shape.optional fields "updated_by" Shape.text
    <*> Shape.optional fields "created_at" Shape.moment
    <*> Shape.optional fields "updated_at" Shape.moment

/-- A record as a map. -/
def toFields (r : Record) : Fields Value :=
  [("record_id", .text r.id),
   ("entity_id", .text r.entityId),
   ("data", .map r.data),
   ("state", .ofText? r.state),
   ("version", .int r.version),
   ("created_by", .ofText? r.createdBy),
   ("updated_by", .ofText? r.updatedBy),
   ("created_at", .ofMoment? r.createdAt),
   ("updated_at", .ofMoment? r.updatedAt)]

/-- Where a record with a state stands in a workflow: in that state, or in the initial one if it
is missing or empty. -/
def currentState (state : Option String) (workflow : Workflow) : CurrentState :=
  match state with
  | some s => if s.isEmpty then ⟨workflow.initialState, true⟩ else ⟨s, false⟩
  | none => ⟨workflow.initialState, true⟩

end Record
end RecordRules
