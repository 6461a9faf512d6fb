import RecordRules.Service.Respond

/-!
# Runs

A run is a list of steps.  Most steps are single operations or requests; the others give way to
further steps before they are over:

* a move along a transition, while the roles of its actor are about to be looked up;
* a transaction, wherever its script says so.

So the steps of several writers can be interleaved.  `Step.runAll` is the meaning of a run: the
replies, and the system it leaves behind.
-/

set_option autoImplicit false

namespace RecordRules

mutual

/-- A step of a run. -/
inductive Step where
  | operation (operation : Operation)
  /-- The clock on the wall is put to a moment. -/
  | wait (moment : Moment)
  /-- A move along a transition, and the steps that run meanwhile. -/
  | move (move : Workflow.Move) (meanwhile : List Step)
  /-- A transaction with its script. -/
  | transaction (script : List Action)
  /-- A request to the service. -/
  | request (request : Request)
  /-- Parts of the service are withdrawn. -/
  | withdraw (parts : List Service.Part)

/-- A part of the script of a transaction. -/
inductive Action where
  | load (entityId recordId : String)
  | saveState (recordId state : String) (actor : Option String)
  | appendAudit (entry : AuditEntry)
  /-- Steps of others. -/
  | outside (steps : List Step)
  /-- A failure of the script itself. -/
  | fail (failure : Failure)

end

instance : Inhabited Step := ⟨.operation default⟩

instance : Inhabited Action := ⟨.load default default⟩

/-- Where a record stands. -/
structure Standing where
  state : Option String
  version : Int
  updatedBy : Option String
  /-- How many audit entries it has. -/
  entries : Nat
deriving Repr, Inhabited

mutual

/-- The reply to a step. -/
inductive Reply where
  | answer (answer : Answer)
  /-- The result of a move, what ran meanwhile, and where the record stands afterwards. -/
  | moved (result : Result TransitionResult) (meanwhile : Option (List Reply))
      (standing : Result (Option Standing))
  /-- What came of the parts of a script up to its end or its failure. -/
  | transaction (parts : List Outcome) (failure : Option Failure)
  | response (response : Result Response)

/-- What came of a part of a script. -/
inductive Outcome where
  | record (record : Option Record)
  | entry (entry : AuditEntry)
  | outside (replies : List Reply)

end

namespace System

/-- Where a record stands. -/
def standing (s : System) (entityId recordId : String) : Result (Option Standing) := do
  let some record ← s.database.getRecord entityId recordId | return none
  let entries ← s.database.auditLog entityId recordId
  return some { state := record.state, version := record.version, updatedBy := record.updatedBy
                entries := entries.length }

end System

/-- A transaction under way in a system. -/
structure Scripted where
  system : System
  tx : Transaction := {}

namespace Scripted

/-- Goes on after a statement that only reads. -/
def afterRead {α : Type} (x : Scripted) (r : Transaction.Outcome (α × Transaction)) :
    Except Failure α × Scripted :=
  match r with
  | .ok (a, tx) => (.ok a, { x with tx })
  | .error e => (.error (x.tx.failure e), x)

/-- Goes on after a statement that writes. -/
def afterWrite {α : Type} (x : Scripted)
    (r : Transaction.Outcome (α × Transaction × Database)) : Except Failure α × Scripted :=
  match r with
  | .ok (a, tx, db) => (.ok a, { system := x.system.withDatabase db, tx })
  | .error e => (.error (x.tx.failure e), x)

/-- Commits, and yields the system. -/
def commit (x : Scripted) : System := x.system.withDatabase (x.tx.commit x.system.database)

/-- Rolls back, and yields the system. -/
def rollback (x : Scripted) : System := x.system.withDatabase (x.tx.rollback x.system.database)

end Scripted

mutual

/-- The reply to a step, and the system afterwards. -/
def Step.run (s : System) : Step → Reply × System
  | .operation o =>
    let (answer, after) := o.run s
    (.answer answer, after)
  | .wait moment => (.answer (.result (.ok .null)), { s with now := moment.withoutOffset })
  | .move m meanwhile =>
    let (result, replies, after) := Workflow.execute s m fun s => runAll s meanwhile
    (.moved result replies (after.standing m.entityId m.recordId), after)
  | .transaction script =>
    match runScript { system := s } script with
    | (parts, none, x) => (.transaction parts none, x.commit)
    | (parts, some failure, x) => (.transaction parts (some failure), x.rollback)
  | .request r =>
    let (response, after) := s.respond r
    (.response response, after)
  | .withdraw parts =>
    (.answer (.result (.ok .null)), { s with service := s.service.withdraw parts })

/-- The replies to the steps of a run, and the system afterwards. -/
def runAll (s : System) : List Step → List Reply × System
  | [] => ([], s)
  | step :: rest =>
    let (reply, next) := step.run s
    let (replies, last) := runAll next rest
    (reply :: replies, last)

/-- What came of a part of a script. -/
def Action.run (x : Scripted) : Action → Except Failure Outcome × Scripted
  | .load entityId recordId =>
    let (r, x) := x.afterRead (x.tx.load x.system.database entityId recordId)
    (r.map .record, x)
  | .saveState recordId state actor =>
    let (r, x) := x.afterWrite
      (x.tx.saveState x.system.database recordId state actor x.system.now)
    (r.map fun record => .record (some record), x)
  | .appendAudit entry =>
    let (r, x) := x.afterWrite (x.tx.appendAudit x.system.database entry)
    (r.map .entry, x)
  | .outside steps =>
    let (replies, after) := runAll x.system steps
    (.ok (.outside replies), { x with system := after })
  | .fail failure => (.error failure, x)

/-- What came of the parts of a script, up to the first that fails, and its failure. -/
def runScript (x : Scripted) : List Action → List Outcome × Option Failure × Scripted
  | [] => ([], none, x)
  | action :: rest =>
    match action.run x with
    | (.error failure, x) => ([], some failure, x)
    | (.ok outcome, x) =>
      let (outcomes, failure, last) := runScript x rest
      (outcome :: outcomes, failure, last)

end

end RecordRules
