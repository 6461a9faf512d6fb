import RecordRules.Schema.Checked

/-!
# Workflows

A workflow is a finite state machine attached to an entity: states, and transitions between them.
If it declares states, its initial state and the ends of all transitions are among them;
`Workflow.closed` carries that.

An executed transition is reported as a `TransitionResult` and kept as an `AuditEntry`.
-/

set_option autoImplicit false

namespace RecordRules

/-- A declared state. -/
structure WorkflowState where
  name : String
  label : Option String
  isInitial : Bool
  isFinal : Bool
deriving DecidableEq, Repr, Inhabited

namespace WorkflowState

/-- Reads a state. -/
def check (fields : Fields Value) : Checked WorkflowState :=
  WorkflowState.mk <$> Shape.required fields "name" Shape.text
    <*> Shape.optional fields "label" Shape.text
    <*> Shape.defaulted fields "is_initial" false Shape.truth
    <*> Shape.defaulted fields "is_final" false Shape.truth

/-- A state as a map. -/
def toFields (s : WorkflowState) : Fields Value :=
  [("name", .text s.name),
   ("label", .ofText? s.label),
   ("is_initial", .bool s.isInitial),
   ("is_final", .bool s.isFinal)]

end WorkflowState

/-- Optional texts as a value. -/
def Value.ofTexts? : Option (List String) → Value
  | some texts => .list (texts.map .text)
  | none => .null

/-- An optional map as a value. -/
def Value.ofFields? : Option (Fields Value) → Value
  | some fields => .map fields
  | none => .null

/-- A directed edge between two states. -/
structure Transition where
  id : String
  workflowId : String
  fromState : String
  toState : String
  actionLabel : Option String
  labelKey : Option String
  description : Option String
  allowedRoles : Option (List String)
  conditions : Option (List String)
  metadata : Option (Fields Value)
deriving Inhabited

namespace Transition

/-- Whether only some roles may execute the transition. -/
def isRestricted (t : Transition) : Bool := !(t.allowedRoles.getD []).isEmpty

/-- A state name that is not blank, without blanks around it. -/
def checkState (v : Value) : Checked String :=
  (Shape.text v).andThen fun name =>
    if Text.allBlank name then .wrong (.rule "State name cannot be empty")
    else .valid (Text.trimmed name)

/-- Reads a transition. -/
def check (fields : Fields Value) : Checked Transition :=
  Transition.mk <$> Shape.required fields "transition_id" Shape.text
    <*> Shape.required fields "workflow_id" Shape.text
    <*> Shape.required fields "from_state" checkState
    <*> Shape.required fields "to_state" checkState
    <*> Shape.optional fields "action_label" Shape.text
    <*> Shape.optional fields "label_key" Shape.text
    <*> Shape.optional fields "description" Shape.text
    <*> Shape.optional fields "allowed_roles" (Shape.items Shape.text)
    <*> Shape.optional fields "conditions" (Shape.items Shape.text)
    <*> Shape.optional fields "metadata" Shape.map

/-- A transition as a map. -/
def toFields (t : Transition) : Fields Value :=
  [("transition_id", .text t.id),
   ("workflow_id", .text t.workflowId),
   ("from_state", .text t.fromState),
   ("to_state", .text t.toState),
   ("action_label", .ofText? t.actionLabel),
   ("label_key", .ofText? t.labelKey),
   ("description", .ofText? t.description),
   ("allowed_roles", .ofTexts? t.allowedRoles),
   ("conditions", .ofTexts? t.conditions),
   ("metadata", .ofFields? t.metadata)]

end Transition

/-- If states are declared, the initial state and the ends of the transitions are among them. -/
def ClosedStates (initial : String) (states : List WorkflowState) (transitions : List Transition) :
    Prop :=
  states = [] ∨
    (initial ∈ states.map WorkflowState.name ∧
      ∀ t ∈ transitions, t.fromState ∈ states.map WorkflowState.name ∧
        t.toState ∈ states.map WorkflowState.name)

instance (initial : String) (states : List WorkflowState) (transitions : List Transition) :
    Decidable (ClosedStates initial states transitions) :=
  inferInstanceAs (Decidable (_ ∨ _))

/-- A finite state machine attached to an entity. -/
structure Workflow where
  id : String
  name : String
  initialState : String
  states : List WorkflowState
  transitions : List Transition
  /-- Only declared states occur, if any are declared. -/
  closed : ClosedStates initialState states transitions

namespace Workflow

instance : Inhabited Workflow := ⟨"", "", "", [], [], Or.inl rfl⟩

/-- The end of a transition that is no declared state. -/
def undeclaredEnd? (names : List String) (t : Transition) : Option String :=
  if !names.contains t.fromState then some t.fromState
  else if !names.contains t.toState then some t.toState
  else none

/-- The first state that occurs without being declared, in words. -/
def undeclared (initial : String) (states : List WorkflowState) (transitions : List Transition) :
    String :=
  let names := states.map WorkflowState.name
  if !names.contains initial then s!"Initial state '{initial}' is not a declared state"
  else
    match transitions.findSome? fun t => (undeclaredEnd? names t).map fun s => (t.id, s) with
    | some (id, state) => s!"Transition '{id}' references unknown state: {state}"
    | none => ""

/-- A workflow whose states are declared. -/
def make (id name initial : String) (states : List WorkflowState) (transitions : List Transition) :
    Checked Workflow :=
  if h : ClosedStates initial states transitions then
    .valid ⟨id, name, initial, states, transitions, h⟩
  else .wrong (.rule (undeclared initial states transitions))

/-- Reads a workflow. -/
def check (fields : Fields Value) : Checked Workflow :=
  ((fun id name initial states transitions => (id, name, initial, states, transitions))
    <$> Shape.required fields "workflow_id" Shape.text
    <*> Shape.required fields "name" Shape.text
    <*> Shape.required fields "initial_state" Shape.text
    <*> Shape.defaulted fields "states" [] (Shape.items (Shape.model WorkflowState.check))
    <*> Shape.defaulted fields "transitions" []
      (Shape.items (Shape.model Transition.check))).andThen
    fun (id, name, initial, states, transitions) => make id name initial states transitions

/-- A workflow as a map. -/
def toFields (w : Workflow) : Fields Value :=
  [("workflow_id", .text w.id),
   ("name", .text w.name),
   ("initial_state", .text w.initialState),
   ("states", .list (w.states.map fun s => .map s.toFields)),
   ("transitions", .list (w.transitions.map fun t => .map t.toFields))]

end Workflow

/-- Where a record stands in its workflow; `defaulted` if it had no state of its own. -/
structure CurrentState where
  state : String
  defaulted : Bool
deriving DecidableEq, Repr, Inhabited

namespace CurrentState

/-- Reads a current state. -/
def check (fields : Fields Value) : Checked CurrentState :=
  CurrentState.mk <$> Shape.required fields "state" Shape.text
    <*> Shape.defaulted fields "defaulted" false Shape.truth

/-- A current state as a map. -/
def toFields (c : CurrentState) : Fields Value :=
  [("state", .text c.state), ("defaulted", .bool c.defaulted)]

end CurrentState

/-- The record of one executed transition. -/
structure AuditEntry where
  id : Option String
  entityId : String
  recordId : String
  workflowId : String
  fromState : String
  toState : String
  transitionId : String
  transitionLabel : Option String
  performedBy : Option String
  performedAt : Moment
  comments : Option String
  metadata : Option (Fields Value)
deriving Inhabited

namespace AuditEntry

/-- The texts of an entry beside those in its metadata. -/
def texts (a : AuditEntry) : List String :=
  a.id.toList ++ [a.entityId, a.recordId, a.workflowId, a.fromState, a.toState, a.transitionId] ++
    a.transitionLabel.toList ++ a.performedBy.toList ++ a.comments.toList

/-- Reads an entry. -/
def check (fields : Fields Value) : Checked AuditEntry :=
  AuditEntry.mk <$> Shape.optional fields "audit_id" Shape.text
    <*> Shape.required fields "entity_id" Shape.text
    <*> Shape.required fields "record_id" Shape.text
    <*> Shape.required fields "workflow_id" Shape.text
    <*> Shape.required fields "from_state" Shape.text
    <*> Shape.required fields "to_state" Shape.text
    <*> Shape.required fields "transition_id" Shape.text
    <*> Shape.optional fields "transition_label" Shape.text
    <*> Shape.optional fields "performed_by" Shape.text
    <*> Shape.required fields "performed_at" Shape.moment
    <*> Shape.optional fields "comments" Shape.text
    <*> Shape.optional fields "metadata" Shape.map

/-- An entry as a map. -/
def toFields (a : AuditEntry) : Fields Value :=
  [("audit_id", .ofText? a.id),
   ("entity_id", .text a.entityId),
   ("record_id", .text a.recordId),
   ("workflow_id", .text a.workflowId),
   ("from_state", .text a.fromState),
   ("to_state", .text a.toState),
   ("transition_id", .text a.transitionId),
   ("transition_label", .ofText? a.transitionLabel),
   ("performed_by", .ofText? a.performedBy),
   ("performed_at", .moment a.performedAt),
   ("comments", .ofText? a.comments),
   ("metadata", .ofFields? a.metadata)]

end AuditEntry

/-- The outcome of an executed transition. -/
structure TransitionResult where
  entityId : String
  recordId : String
  fromState : String
  toState : String
  transitionId : String
  transitionLabel : Option String
  performedBy : Option String
  performedAt : Moment
  comments : Option String
deriving DecidableEq, Repr, Inhabited

namespace TransitionResult

/-- Reads a result. -/
def check (fields : Fields Value) : Checked TransitionResult :=
  TransitionResult.mk <$> Shape.required fields "entity_id" Shape.text
    <*> Shape.required fields "record_id" Shape.text
    <*> Shape.required fields "from_state" Shape.text
    <*> Shape.required fields "to_state" Shape.text
    <*> Shape.required fields "transition_id" Shape.text
    <*> Shape.optional fields "transition_label" Shape.text
    <*> Shape.optional fields "performed_by" Shape.text
    <*> Shape.required fields "performed_at" Shape.moment
    <*> Shape.optional fields "comments" Shape.text

/-- A result as a map. -/
def toFields (r : TransitionResult) : Fields Value :=
  [("entity_id", .text r.entityId),
   ("record_id", .text r.recordId),
   ("from_state", .text r.fromState),
   ("to_state", .text r.toState),
   ("transition_id", .text r.transitionId),
   ("transition_label", .ofText? r.transitionLabel),
   ("performed_by", .ofText? r.performedBy),
   ("performed_at", .moment r.performedAt),
   ("comments", .ofText? r.comments)]

end TransitionResult

/-- A transition that is legal in the current state of a record. -/
structure AvailableTransition where
  id : String
  fromState : String
  toState : String
  actionLabel : Option String
  labelKey : Option String
  description : Option String
  allowedRoles : Option (List String)
deriving DecidableEq, Repr, Inhabited

namespace AvailableTransition

/-- What a transition shows of itself. -/
def ofTransition (t : Transition) : AvailableTransition :=
  ⟨t.id, t.fromState, t.toState, t.actionLabel, t.labelKey, t.description, t.allowedRoles⟩

/-- Reads an available transition. -/
def check (fields : Fields Value) : Checked AvailableTransition :=
  AvailableTransition.mk <$> Shape.required fields "transition_id" Shape.text
    <*> Shape.required fields "from_state" Shape.text
    <*> Shape.required fields "to_state" Shape.text
    <*> Shape.optional fields "action_label" Shape.text
    <*> Shape.optional fields "label_key" Shape.text
    <*> Shape.optional fields "description" Shape.text
    <*> Shape.optional fields "allowed_roles" (Shape.items Shape.text)

/-- An available transition as a map. -/
def toFields (t : AvailableTransition) : Fields Value :=
  [("transition_id", .text t.id),
   ("from_state", .text t.fromState),
   ("to_state", .text t.toState),
   ("action_label", .ofText? t.actionLabel),
   ("label_key", .ofText? t.labelKey),
   ("description", .ofText? t.description),
   ("allowed_roles", .ofTexts? t.allowedRoles)]

end AvailableTransition
end RecordRules
