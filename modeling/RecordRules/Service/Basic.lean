import RecordRules.Log.Basic
import RecordRules.Site

/-!
# The service

A service answers requests.  It starts with the first of them, and some of its parts can be
withdrawn afterwards.
-/

set_option autoImplicit false

namespace RecordRules

namespace Service

/-- The parts of a service that answers depend on. -/
inductive Part where
  | metadataStore
  | interpreter
  | validationEngine
  | measureEvaluator
  | workflowEngine
deriving DecidableEq, Repr, Inhabited

/-- The name of a part. -/
def Part.label : Part → String
  | .metadataStore => "metadata_store"
  | .interpreter => "interpreter"
  | .validationEngine => "validation_engine"
  | .measureEvaluator => "measure_evaluator"
  | .workflowEngine => "workflow_engine"

/-- The name of a part in messages. -/
def Part.title : Part → String
  | .metadataStore => "Metadata store"
  | .interpreter => "Expression interpreter"
  | .validationEngine => "Validation engine"
  | .measureEvaluator => "Measure evaluator"
  | .workflowEngine => "Workflow engine"

/-- The parts. -/
def Part.all : List Part :=
  [.metadataStore, .interpreter, .validationEngine, .measureEvaluator, .workflowEngine]

end Service

/-- A service, and how far it is. -/
structure Service where
  settings : Settings := {}
  site : Site := {}
  /-- Whether it opens the database of its settings rather than use the one at hand. -/
  standalone : Bool := false
  /-- The parts that have been withdrawn, once it has started. -/
  withdrawn : Option (List Service.Part) := none
deriving Inhabited

namespace Service

/-- Whether a part is missing. -/
def isMissing (service : Service) (part : Part) : Bool :=
  (service.withdrawn.getD []).contains part

/-- Withdraws parts of a service that has started; starting brings all parts back. -/
def withdraw (service : Service) (parts : List Part) : Service :=
  { service with withdrawn := service.withdrawn.map (· ++ parts) }

/-- Opens the database of the settings and makes its tables.  A service also works without the
indexes, so it does not matter if they cannot be made. -/
def openDatabase (service : Service) : Result Database := do
  let db ← service.site.openDatabase (← Location.ofUrl service.settings.databaseUrl)
  let db ← db.createTables
  match db.migrate with
  | .ok indexed => return indexed
  | .error _ => return db

/-- The log that settings ask for. -/
def logSetup (s : Settings) : LogSetup :=
  { level := s.logLevel.label, file := s.logFile, template := some s.logFormat
    structured := s.logStructured, maxSize := s.logMaxSize, backupCount := s.logBackupCount }

/-- Whether a value is a text. -/
def isText : Value → Bool
  | .text _ => true
  | _ => false

/-- What keeps the methods that other origins may use from being listed: they have to be texts,
unless `*` is one of them and stands for all. -/
def unlisted? (s : Settings) : Option Failure :=
  if s.corsOrigins.isEmpty || s.corsMethods.any (Value.same (.text "*")) then none
  else
    (s.corsMethods.zipIdx.find? fun (v, _) => !isText v).map fun (v, n) =>
      .ofMishap .type s!"sequence item {n}: expected str instance, {v.typePath} found"

/-- Makes what the settings need and opens the log, and yields the files afterwards. -/
def settle (service : Service) : Result Unit × FileTree :=
  match service.settings.prepare service.site.files, unlisted? service.settings with
  | (.error e, files), _ => (.error e, files)
  | (.ok (), files), some problem => (.error problem, files)
  | (.ok (), files), none =>
    match Log.ofSetup files (logSetup service.settings) with
    | .error e => (.error e, files)
    | .ok (_, files) => (.ok (), files)

/-- The start of a service: it settles, and opens a database of its own if it has one. -/
def start (service : Service) : Result (Option Database) × Service :=
  let (settled, files) := service.settle
  let service := { service with site := { service.site with files } }
  match settled with
  | .error e => (.error e, service)
  | .ok () =>
    let started : Service := { service with withdrawn := some [] }
    if service.standalone then
      match service.openDatabase with
      | .ok db => (.ok (some db), started)
      | .error e => (.error e, service)
    else (.ok none, started)

end Service
end RecordRules
