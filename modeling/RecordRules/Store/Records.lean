import RecordRules.Store.Metadata

/-!
# Stored records, audit entries and roles

A record is created once, at a moment that it keeps; after that only transactions change it.  Audit
entries are only ever added, and listed newest first.  An actor can be given roles.
-/

set_option autoImplicit false

namespace RecordRules
namespace Tables

/-- The record of an entity with an id. -/
def record? (t : Tables) (entityId recordId : String) : Option Record :=
  t.records.find? fun r => r.entityId == entityId && r.id == recordId

end Tables

/-- A record as it is created. -/
structure NewRecord where
  entityId : String
  data : Fields Value
  id : Option String := none
  state : Option String := none
  actor : Option String := none
deriving Inhabited

namespace NewRecord

/-- The first version of a record, under an id. -/
def record (n : NewRecord) (id : String) (now : Moment) : Record :=
  { id
    entityId := n.entityId
    data := n.data
    state := n.state
    version := 1
    createdBy := n.actor
    updatedBy := n.actor
    createdAt := some now
    updatedAt := some now }

end NewRecord

namespace Database

/-- The record of an entity with an id. -/
def getRecord (db : Database) (entityId recordId : String) : Result (Option Record) :=
  db.read "get record" .records fun t => .ok (t.record? entityId recordId)

/-- Adds a record. -/
def createRecord (db : Database) (now : Moment) (n : NewRecord) : Result (Record × Database) :=
  match documentFields n.data with
  | .error refusal => .error (refusal.toFailure "create record" Table.records.label)
  | .ok data =>
    db.change "create record" .records fun t =>
      let record := n.record (idOr n.id (t.records.map Record.id)) now
      if t.records.any fun r => r.id == record.id then .error (Table.records.taken ["record_id"])
      else .ok (record, { t with records := t.records ++ [{ record with data }] })

/-- The audit entries of a record, newest first. -/
def auditLog (db : Database) (entityId recordId : String) : Result (List AuditEntry) :=
  db.read "list audit log" .audit fun t =>
    .ok (t.audit.filter fun a => a.entityId == entityId && a.recordId == recordId).reverse

/-- Whether an actor holds one of some roles. -/
def hasAnyRole (db : Database) (actor : Option String) (roles : List String) : Result Bool :=
  match actor with
  | none => .ok false
  | some actor =>
    if actor.isEmpty || roles.isEmpty then .ok false
    else
      db.read "check roles" .roles fun t =>
        .ok (t.roles.any fun (holder, role) => holder == actor && roles.contains role)

/-- Gives an actor a role. -/
def assignRole (db : Database) (actor role : String) : Result Database := do
  if ← db.read "assign role" .roles fun t => .ok (t.roles.contains (actor, role)) then return db
  else db.write "assign role" .roles fun t => .ok { t with roles := t.roles ++ [(actor, role)] }

end Database
end RecordRules
