import RecordRules.Store.Records

/-!
# Transactions

A transaction changes the state of records and adds audit entries, and all of that becomes visible
at once or never.

* It reads what is committed until it writes.  With its first write it takes the write lock and
  continues on a copy of the tables; nobody else can write until it ends.
* A record keeps its first loaded form for the whole transaction.  Saving it fails if its version
  has changed since: somebody else was faster.
* Every save is a new version, even of the same state: it has the moment at which it was made.
* `Transaction.commit` and `Transaction.rollback` end it.
-/

set_option autoImplicit false

namespace RecordRules

/-- A transaction that is under way. -/
structure Transaction where
  /-- The records it has loaded, by id, with what it has changed in them. -/
  loaded : Fields Record := []
  /-- The tables it has changed, if it has. -/
  pending : Option Tables := none
  /-- Entity and id of the record it loaded last. -/
  latest : Option (String × String) := none
deriving Inhabited

/-- Why a transaction fails. -/
inductive TransactionError where
  | refused (refusal : Refusal)
  /-- The record has been changed since it was loaded. -/
  | stale
  /-- The record has not been loaded. -/
  | notLoaded (recordId : String)
deriving DecidableEq, Repr

namespace Transaction

variable {α : Type}

/-- What a statement of a transaction yields. -/
abbrev Outcome (α : Type) := Except TransactionError α

/-- The failure that an error of a transaction becomes for its caller. -/
def failure (tx : Transaction) : TransactionError → Failure
  | .refused r => r.toTransactionFailure
  | .stale =>
    .fault (Fault.of .conflict "Record was modified by a concurrent transition; retry the request"
      [("entity_id", .ofText? (tx.latest.map Prod.fst)),
       ("record_id", .ofText? (tx.latest.map Prod.snd))])
  | .notLoaded recordId =>
    .fault (Refusal.storageFault s!"Record {recordId} was not loaded in this transaction"
      "save_state" Table.records.label)

/-- The tables as the transaction sees them. -/
def rows (tx : Transaction) (db : Database) (table : Table) : Outcome Tables :=
  match tx.pending with
  | some t => .ok t
  | none => (db.rows table).mapError .refused

/-- Loads a record. -/
def load (tx : Transaction) (db : Database) (entityId recordId : String) :
    Outcome (Option Record × Transaction) := do
  let t ← tx.rows db .records
  match t.record? entityId recordId with
  | none => return (none, tx)
  | some stored =>
    let record := (tx.loaded.get? recordId).getD stored
    return (some record,
      { tx with loaded := tx.loaded.set recordId record, latest := some (entityId, recordId) })

/-- Writes to the tables, which takes the write lock unless the transaction has it. -/
def write (tx : Transaction) (db : Database) (table : Table)
    (action : Tables → Outcome (α × Tables)) : Outcome (α × Transaction × Database) := do
  let t ← tx.rows db table
  if tx.pending.isNone && db.locked then .error (.refused .locked)
  else
    let (a, changed) ← action t
    return (a, { tx with pending := some changed }, { db with locked := true })

/-- The row of a record with the state, the last writer, the moment and the version of another form
of it. -/
def restated (record row : Record) : Record :=
  { row with
    state := record.state
    updatedBy := record.updatedBy
    updatedAt := record.updatedAt
    version := record.version }

/-- Writes a new form of a record into its row, if the row still has a version. -/
def replaceRecord (records : List Record) (version : Int) (record : Record) :
    Outcome (List Record) :=
  if records.any fun r => r.id == record.id && r.version == version then
    .ok (records.map fun r => if r.id == record.id then restated record r else r)
  else .error .stale

/-- Saves a new state of a loaded record, which is its next version. -/
def saveState (tx : Transaction) (db : Database) (recordId state : String)
    (actor : Option String) (now : Moment) : Outcome (Record × Transaction × Database) :=
  match tx.loaded.get? recordId with
  | none => .error (.notLoaded recordId)
  | some old => do
    let record := { old with
      state := some state
      updatedBy := actor
      updatedAt := some now
      version := old.version + 1 }
    let (_, tx, db) ← tx.write db .records fun t => do
      return ((), { t with records := ← replaceRecord t.records old.version record })
    return (record, { tx with loaded := tx.loaded.set recordId record }, db)

/-- The metadata of an entry as the store keeps it. -/
def keptMetadata (entry : AuditEntry) : Except Refusal (Option (Fields Value)) :=
  match entry.metadata with
  | some fields => some <$> documentFields fields
  | none => .ok none

/-- Whether the texts of an entry can be turned into bytes. -/
def checkTexts (entry : AuditEntry) : Except Refusal Unit :=
  match entry.texts.findSome? Text.encodingProblem? with
  | some problem => .error (.unwritable problem)
  | none => .ok ()

/-- Adds an audit entry. -/
def appendAudit (tx : Transaction) (db : Database) (entry : AuditEntry) :
    Outcome (AuditEntry × Transaction × Database) := do
  let metadata ← (keptMetadata entry).mapError .refused
  let _ ← tx.rows db .audit
  -- texts are turned into bytes before anybody asks for the write lock
  (checkTexts entry).mapError .refused
  tx.write db .audit fun t =>
    let id := idOr entry.id (t.audit.filterMap AuditEntry.id)
    if t.audit.any fun a => a.id == some id then
      .error (.refused (Table.audit.taken ["audit_id"]))
    else
      .ok ({ entry with id := some id },
        { t with audit := t.audit ++ [{ entry with
            id := some id, metadata, performedAt := entry.performedAt.withoutOffset }] })

/-- Whether the transaction has the write lock. -/
def writes (tx : Transaction) : Bool := tx.pending.isSome

/-- Makes everything written visible. -/
def commit (tx : Transaction) (db : Database) : Database :=
  match tx.pending with
  | some t => { tables := some t, locked := false }
  | none => db

/-- Forgets everything written. -/
def rollback (tx : Transaction) (db : Database) : Database :=
  if tx.writes then { db with locked := false } else db

end Transaction
end RecordRules
