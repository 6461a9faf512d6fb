import RecordRules.System.Basic

/-!
# Executing transitions

`execute` moves a record along a transition of the workflow of its entity.  The new state and its
audit entry are written in one transaction, so that there is never one without the other.

1. Entity, workflow, record and transition are looked up, and the transition has to belong to the
   workflow.
2. In a transaction the record is loaded; without a state of its own it is put into the initial
   one.  The transition has to start where the record stands.
3. The actor needs one of the roles that the transition asks for.
4. The conditions of the transition and the rules about transitions have to be met.
5. The new state is saved and the audit entry added.

Other operations can run between steps 3 and 4, before the roles are looked up: `meanwhile` stands
for what they do to the system.

`available` lists the transitions that start where a record stands.
-/

set_option autoImplicit false

namespace RecordRules
namespace Workflow

/-- A request to move a record along a transition. -/
structure Move where
  entityId : String
  recordId : String
  transitionId : String
  comments : Option String
  actor : Option String
deriving DecidableEq, Repr, Inhabited

/-- The fault of something that does not exist. -/
def notFound (what kind id : String) : Fault :=
  Fault.of .notFound s!"{what} not found: {id}"
    [("resource_type", .text kind), ("resource_id", .text id)]

/-- The fault of a record that does not exist. -/
def recordNotFound (recordId : String) : Failure := .fault (notFound "Record" "record" recordId)

/-- The workflow of an id. -/
def find (db : Database) (workflowId : String) : Result Workflow := do
  match ← db.getWorkflow workflowId with
  | some workflow => return workflow
  | none => throw (.fault (notFound "Workflow" "workflow" workflowId))

/-- The workflow id of an entity, unless it is missing or empty. -/
def attached? (e : Entity) : Option String :=
  match e.workflowId with
  | some id => if id.isEmpty then none else some id
  | none => none

/-- What a move is about. -/
structure Plan where
  entity : Entity
  workflow : Workflow
  transition : Transition
deriving Inhabited

/-- Looks up what a move is about. -/
def plan (db : Database) (m : Move) : Result Plan := do
  let entity ← Validation.findEntity db m.entityId
  let some workflowId := attached? entity
    | throw (.fault (Fault.of .noWorkflow "Entity does not have a workflow assigned"
        [("entity_id", .text m.entityId)]))
  let some _ ← db.getRecord m.entityId m.recordId
    | throw (recordNotFound m.recordId)
  let workflow ← find db workflowId
  let some transition ← db.getTransition m.transitionId
    | throw (.fault (notFound "Transition" "transition" m.transitionId))
  if transition.workflowId == workflow.id then return { entity, workflow, transition }
  else
    throw (.fault (Fault.of .invalidTransition
      "Transition does not belong to the entity's workflow"
      [("transition_id", .text m.transitionId), ("workflow_id", .text workflow.id)]))

/-- A move whose record has been loaded. -/
structure Opened where
  plan : Plan
  record : Record
  current : CurrentState
  tx : Transaction

/-- Loads the record of a move, and puts it into the initial state if it has none. -/
def openRecord (db : Database) (now : Moment) (p : Plan) (m : Move) :
    Result (Opened × Database) := do
  let tx : Transaction := {}
  let (found, tx) ← (tx.load db m.entityId m.recordId).mapError tx.failure
  let some record := found | throw (recordNotFound m.recordId)
  let current := Record.currentState record.state p.workflow
  if current.defaulted then
    let (record, tx, db) ← (tx.saveState db m.recordId current.state m.actor now).mapError
      tx.failure
    return ({ plan := p, record, current, tx }, db)
  else return ({ plan := p, record, current, tx }, db)

/-- The failure of a transition that starts elsewhere. -/
def wrongState (m : Move) (t : Transition) (current : CurrentState) : Failure :=
  .fault (Fault.of .illegalState
    (s!"Cannot execute transition from state '{t.fromState}'. " ++
      s!"Current state is '{current.state}'")
    [("current_state", .text current.state), ("transition_id", .text m.transitionId)])

/-- The failure of an actor without one of the roles. -/
def forbidden (m : Move) (t : Transition) : Failure :=
  .fault (Fault.of .forbidden s!"Actor is not allowed to execute transition '{t.id}'"
    [("actor", .ofText? m.actor), ("allowed_roles", .ofTexts? t.allowedRoles)])

/-- An issue in the report of all issues. -/
def issueText (i : Issue) : String :=
  match i.propertyName with
  | some name => if name.isEmpty then i.message else s!"{name}: {i.message}"
  | none => i.message

/-- The failure of a transition whose conditions or rules are not met. -/
def unmet (t : Transition) (record : Record) (issues : List Issue) : Failure :=
  .fault (Fault.of .transitionValidation
    ("Validation failed: " ++ String.intercalate "; " (issues.map issueText))
    [("issues", .list (issues.map Issue.toValue)), ("current_state", .ofText? record.state),
     ("transition_id", .text t.id)])

/-- The actor has one of the roles that the transition asks for, if it asks for any. -/
def authorize (db : Database) (m : Move) (t : Transition) : Result Unit := do
  if t.isRestricted then
    if ← db.hasAnyRole m.actor (t.allowedRoles.getD []) then return ()
    else throw (forbidden m t)

/-- The conditions of the transition and the rules about transitions are met. -/
def checkRules (db : Database) (limits : Expression.Limits) (m : Move) (o : Opened) :
    Result Unit := do
  let issues ← Validation.transitionIssues db limits o.plan.entity.id o.record.data
    o.plan.transition m.actor none
  if issues.isEmpty then return () else throw (unmet o.plan.transition o.record issues)

/-- What a move reports. -/
def report (m : Move) (o : Opened) (performedAt : Moment) : TransitionResult :=
  { entityId := m.entityId
    recordId := m.recordId
    fromState := o.current.state
    toState := o.plan.transition.toState
    transitionId := o.plan.transition.id
    transitionLabel := o.plan.transition.actionLabel
    performedBy := m.actor
    performedAt
    comments := m.comments }

/-- The audit entry of a move. -/
def auditEntry (m : Move) (o : Opened) (performedAt : Moment) : AuditEntry :=
  { id := none
    entityId := m.entityId
    recordId := m.recordId
    workflowId := o.plan.workflow.id
    fromState := o.current.state
    toState := o.plan.transition.toState
    transitionId := o.plan.transition.id
    transitionLabel := o.plan.transition.actionLabel
    performedBy := m.actor
    performedAt
    comments := m.comments
    metadata := some [] }

/-- Saves the new state and adds the audit entry. -/
def complete (db : Database) (now : Moment) (m : Move) (o : Opened) (performedAt : Moment) :
    Result (TransitionResult × Database) := do
  let tx := o.tx
  let (_, tx, db) ← (tx.saveState db m.recordId o.plan.transition.toState m.actor now).mapError
    tx.failure
  let (_, tx, db) ← (tx.appendAudit db (auditEntry m o performedAt)).mapError tx.failure
  return (report m o performedAt, tx.commit db)

/-- What runs while the roles are about to be looked up, if they are looked up at all. -/
def interlude {β : Type} (s : System) (t : Transition) (meanwhile : System → β × System) :
    Option β × System :=
  if t.isRestricted then
    let (b, after) := meanwhile s
    (some b, after)
  else (none, s)

/-- The last steps of a move, and the system as it leaves them. -/
def finish (s : System) (m : Move) (o : Opened) : Result TransitionResult × System :=
  let checked : Result Unit := do
    authorize s.database m o.plan.transition
    checkRules s.database s.limits m o
  match checked with
  | .error e => (.error e, s.withDatabase (o.tx.rollback s.database))
  | .ok () =>
    let (performedAt, later) := s.tick
    match complete later.database later.now m o performedAt with
    | .error e => (.error e, later.withDatabase (o.tx.rollback later.database))
    | .ok (result, db) => (.ok result, later.withDatabase db)

/-- Moves a record along a transition.  Beside the result there is what ran meanwhile, and the
system afterwards. -/
def execute {β : Type} (s : System) (m : Move) (meanwhile : System → β × System) :
    Result TransitionResult × Option β × System :=
  match plan s.database m >>= fun p => openRecord s.database s.now p m with
  | .error e => (.error e, none, s)
  | .ok (o, db) =>
    if o.plan.transition.fromState == o.current.state then
      let (ran, after) := interlude (s.withDatabase db) o.plan.transition meanwhile
      let (result, last) := finish after m o
      (result, ran, last)
    else (.error (wrongState m o.plan.transition o.current), none, s)

/-- The transitions that start where a record stands. -/
def available (db : Database) (entityId recordId : String) :
    Result (List AvailableTransition) := do
  let entity ← Validation.findEntity db entityId
  let some workflowId := attached? entity | return []
  let some record ← db.getRecord entityId recordId | throw (recordNotFound recordId)
  let some workflow ← db.getWorkflow workflowId | return []
  let current := Record.currentState record.state workflow
  return (workflow.transitions.filter fun t => t.fromState == current.state).map
    AvailableTransition.ofTransition

end Workflow
end RecordRules
