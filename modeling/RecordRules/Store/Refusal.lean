import RecordRules.Failure

/-!
# What the store refuses

The store holds texts, truth values, 64-bit integers, doubles and documents.  A document is a value
in JSON, so it keeps no tuples (`Value.document` makes lists of them), and no dates; what is no
number loses its mark.

`Refusal` is why a statement cannot be carried out.
-/

set_option autoImplicit false

namespace RecordRules

/-- Why the store refuses a statement. -/
inductive Refusal where
  /-- A table is missing. -/
  | noTable (table : String)
  /-- Another transaction is writing. -/
  | locked
  /-- A key is taken; the columns of the key are named. -/
  | duplicate (columns : List String)
  /-- A document holds a value that JSON has no form for. -/
  | undocumentable (typeLabel : String)
  /-- A document holds an integer with too many digits. -/
  | integerTextTooLong
  /-- An integer has more than 64 bits. -/
  | integerTooWide
  /-- A text cannot be written as bytes. -/
  | unwritable (problem : String)
deriving DecidableEq, Repr

namespace Refusal

/-- The wording of a refusal. -/
def message : Refusal → String
  | .noTable table => s!"(sqlite3.OperationalError) no such table: {table}"
  | .locked => "(sqlite3.OperationalError) database is locked"
  | .duplicate columns => "UNIQUE constraint failed: " ++ String.intercalate ", " columns
  | .undocumentable label =>
    s!"(builtins.TypeError) Object of type {label} is not JSON serializable"
  | .integerTextTooLong => "(builtins.ValueError) " ++ ValueError.integerTextTooLong.message
  | .integerTooWide => "Python int too large to convert to SQLite INTEGER"
  | .unwritable problem => problem

/-- The fault of a store that failed at an operation on a table. -/
def storageFault (message operation table : String) : Fault :=
  Fault.of .storage message [("operation", .text operation), ("table", .text table)]

/-- The failure of a single operation that was refused. -/
def toFailure (operation table : String) (r : Refusal) : Failure :=
  match r with
  | .integerTooWide => .ofMishap .overflow r.message
  | .unwritable _ => .ofMishap .encoding r.message
  | .duplicate _ =>
    .fault
      (storageFault s!"Failed to {operation}: integrity violation: {r.message}" operation table)
  | _ => .fault (storageFault s!"Failed to {operation}: {r.message}" operation table)

/-- The failure of a transaction in which a statement was refused. -/
def toTransactionFailure (r : Refusal) : Failure :=
  let report (text : String) : Failure :=
    .fault (storageFault s!"Record transaction failed: {text}" "transaction" "entity_records")
  match r with
  | .integerTooWide => .ofMishap .overflow r.message
  | .unwritable _ => .ofMishap .encoding r.message
  | .duplicate _ => report s!"(sqlite3.IntegrityError) {r.message}"
  | _ => report r.message

/-- The failure of a change to the tables themselves that was refused. -/
def toSchemaFailure (r : Refusal) : Failure := .ofMishap .database r.message

end Refusal

/-! ## Documents -/

namespace Value

mutual

/-- A value as a document. -/
def document : Value → Except Refusal Value
  | .tuple items => do return .list (← documentItems items)
  | .list items => do return .list (← documentItems items)
  | .map entries => do return .map (← documentEntries entries)
  | .date s => .error (.undocumentable (Value.date s).typeLabel)
  | .moment s => .error (.undocumentable (Value.moment s).typeLabel)
  | .int n => if tooManyDigits n then .error .integerTextTooLong else .ok (.int n)
  | .float x => .ok (if x.isNaN then .nan 0 else .float x)
  | .nan _ => .ok (.nan 0)
  | v => .ok v

/-- Items of a document. -/
def documentItems : List Value → Except Refusal (List Value)
  | [] => .ok []
  | v :: rest => do
    let first ← document v
    return first :: (← documentItems rest)

/-- Entries of a document. -/
def documentEntries : List (String × Value) → Except Refusal (List (String × Value))
  | [] => .ok []
  | (name, v) :: rest => do
    let first ← document v
    return (name, first) :: (← documentEntries rest)

end

mutual

/-- A value in the form in which it leaves for other programs: days and moments as texts, tuples as
lists, and null for what is no number. -/
def plain : Value → Value
  | .tuple items => .list (plainItems items)
  | .list items => .list (plainItems items)
  | .map entries => .map (plainEntries entries)
  | .date s => .text s
  | .moment s => .text s.sent
  | .float x => if x.isNaN || x.isInf then .null else .float x
  | .nan _ => .null
  | v => v

/-- Items in their plain form. -/
def plainItems : List Value → List Value
  | [] => []
  | v :: rest => plain v :: plainItems rest

/-- Entries in their plain form. -/
def plainEntries : List (String × Value) → List (String × Value)
  | [] => []
  | (name, v) :: rest => (name, plain v) :: plainEntries rest

end

end Value
end RecordRules
