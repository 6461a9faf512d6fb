import RecordRules.Store.Refusal
import RecordRules.Schema.Entity
import RecordRules.Schema.Rule
import RecordRules.Schema.Measure
import RecordRules.Schema.Workflow
import RecordRules.Schema.Record

/-!
# The database

* `Tables` are the rows of all tables, each in the order of insertion.
* `Database` is what has been committed, and whether a transaction is writing at the moment.  Its
  tables can be missing altogether.
* `Database.read`, `Database.change` and `Database.write` carry out one operation on the tables: a
  change happens as a whole or not at all, and not while a transaction is writing.
-/

set_option autoImplicit false

namespace RecordRules

/-- The tables. -/
inductive Table where
  | entities
  | properties
  | rules
  | measures
  | workflows
  | states
  | transitions
  | records
  | audit
  | roles
deriving DecidableEq, Repr

/-- The name of a table. -/
def Table.label : Table → String
  | .entities => "entity_definitions"
  | .properties => "property_definitions"
  | .rules => "validation_rules"
  | .measures => "measures"
  | .workflows => "workflow_definitions"
  | .states => "workflow_states"
  | .transitions => "workflow_transitions"
  | .records => "entity_records"
  | .audit => "workflow_audit_log"
  | .roles => "actor_roles"

/-- The tables. -/
def Table.all : List Table :=
  [.entities, .properties, .rules, .measures, .workflows, .states, .transitions, .records, .audit,
    .roles]

/-- A key of a table that is taken. -/
def Table.taken (table : Table) (columns : List String) : Refusal :=
  .duplicate (columns.map fun column => table.label ++ "." ++ column)

/-- A rule, and whether it is in force. -/
structure StoredRule where
  rule : Rule
  active : Bool
deriving Inhabited

/-- The rows of all tables, in the order of insertion. -/
structure Tables where
  entities : List Entity := []
  rules : List StoredRule := []
  measures : List Measure := []
  workflows : List Workflow := []
  records : List Record := []
  audit : List AuditEntry := []
  /-- Actors with a role of theirs. -/
  roles : List (String × String) := []
  /-- Whether the indexes for look-ups have been made. -/
  lookupIndexes : Bool := false
deriving Inhabited

/-- What has been committed, and whether a transaction is writing. -/
structure Database where
  tables : Option Tables := some {}
  locked : Bool := false
deriving Inhabited

namespace Database

variable {α : Type}

/-- The rows, for an operation on a table. -/
def rows (db : Database) (table : Table) : Except Refusal Tables :=
  match db.tables with
  | some t => .ok t
  | none => .error (.noTable table.label)

/-- Reads from the tables. -/
def read (db : Database) (operation : String) (table : Table)
    (query : Tables → Except Refusal α) : Result α :=
  (db.rows table >>= query).mapError (Refusal.toFailure operation table.label)

/-- Changes the tables, unless a transaction is writing. -/
def change (db : Database) (operation : String) (table : Table)
    (action : Tables → Except Refusal (α × Tables)) : Result (α × Database) :=
  (do
    let t ← db.rows table
    if db.locked then .error .locked
    else
      let (a, changed) ← action t
      return (a, { db with tables := some changed })).mapError
    (Refusal.toFailure operation table.label)

/-- Changes the tables without a result of its own. -/
def write (db : Database) (operation : String) (table : Table)
    (action : Tables → Except Refusal Tables) : Result Database :=
  Prod.snd <$> db.change operation table fun t => do return ((), ← action t)

/-! ## The tables themselves -/

/-- Makes the tables that are missing. -/
def createTables (db : Database) : Result Database :=
  match db.tables with
  | some _ => .ok db
  | none =>
    if db.locked then .error Refusal.locked.toSchemaFailure else .ok { db with tables := some {} }

/-- Drops the tables that there are. -/
def dropTables (db : Database) : Result Database :=
  match db.tables with
  | none => .ok db
  | some _ =>
    if db.locked then .error Refusal.locked.toSchemaFailure else .ok { db with tables := none }

/-- The indexes that come with the tables. -/
def tableIndexes : List String :=
  ["idx_workflow_audit_record_sequence", "ix_entity_records_entity_id", "ix_measures_identifier"]

/-- The indexes for look-ups. -/
def lookupIndexes : List String :=
  ["idx_entity_records_entity_record", "idx_measures_identifier_version",
    "idx_validation_rules_entity_property", "idx_validation_rules_entity_scope",
    "idx_workflow_audit_entity_record", "idx_workflow_transitions_from_state"]

/-- The names of all indexes, in order. -/
def indexes (db : Database) : List String :=
  match db.tables with
  | none => []
  | some t =>
    let names := if t.lookupIndexes then tableIndexes ++ lookupIndexes else tableIndexes
    names.mergeSort fun a b => decide (a ≤ b)

/-- Makes the indexes for look-ups. -/
def migrate (db : Database) : Result Database :=
  match db.tables with
  | none => .error (Refusal.noTable ("main." ++ Table.rules.label)).toSchemaFailure
  | some t =>
    if t.lookupIndexes then .ok db
    else if db.locked then .error Refusal.locked.toSchemaFailure
    else .ok { db with tables := some { t with lookupIndexes := true } }

end Database
end RecordRules
