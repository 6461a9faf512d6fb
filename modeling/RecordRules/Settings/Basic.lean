import RecordRules.Expression.Evaluate
import RecordRules.Schema.Checked
import RecordRules.Text.Case

/-!
# Settings

How the program is set up: its name, where it listens, its database, the limits of expressions, what
it logs, and who may use it from other origins.

* `Settings.check` reads settings and checks the rules for single fields.  Fields can be changed
  later without a check, so a setting in use can break them.
* `development`, `production` and `testing` are settings for a purpose.
-/

set_option autoImplicit false

namespace RecordRules

/-- How much is logged. -/
inductive LogLevel where
  | debug
  | info
  | warning
  | error
  | critical
deriving DecidableEq, Repr, Inhabited

/-- The name of a level. -/
def LogLevel.label : LogLevel → String
  | .debug => "DEBUG"
  | .info => "INFO"
  | .warning => "WARNING"
  | .error => "ERROR"
  | .critical => "CRITICAL"

/-- The levels, in ascending order. -/
def LogLevel.all : List LogLevel := [.debug, .info, .warning, .error, .critical]

/-- The number of a level. -/
def LogLevel.number : LogLevel → Nat
  | .debug => 10
  | .info => 20
  | .warning => 30
  | .error => 40
  | .critical => 50

/-- The kinds of databases that can be named. -/
inductive DatabaseKind where
  | sqlite
  | postgresql
  | mysql
deriving DecidableEq, Repr, Inhabited

/-- The name of a kind of database. -/
def DatabaseKind.label : DatabaseKind → String
  | .sqlite => "sqlite"
  | .postgresql => "postgresql"
  | .mysql => "mysql"

/-- The kinds of databases. -/
def DatabaseKind.all : List DatabaseKind := [.sqlite, .postgresql, .mysql]

/-- How the program is set up. -/
structure Settings where
  appName : String := "Recordflow"
  appVersion : String := "1.0.0"
  debug : Bool := false
  host : String := "0.0.0.0"
  port : Int := 8000
  reload : Bool := false
  databaseUrl : String := "sqlite:///./recordflow.db"
  databaseEcho : Bool := false
  maxExpressionLength : Int := 4096
  maxExpressionDepth : Int := 32
  logLevel : LogLevel := .info
  logFormat : String := "%(asctime)s - %(name)s - %(levelname)s - %(message)s"
  logFile : Option String := none
  logMaxSize : Int := 10485760
  logBackupCount : Int := 5
  logStructured : Bool := false
  corsOrigins : List Value := [.text "*"]
  corsMethods : List Value := [.text "GET", .text "POST"]
deriving Inhabited

namespace Settings

/-! ## Reading -/

/-- The part of a URL before the first `://`, in lower case. -/
def urlScheme (url : String) : List Char :=
  let scheme := match Text.cut? "://".toList url.toList with
    | some (before, _) => before
    | none => url.toList
  (Text.lowered (String.ofList scheme)).toList

/-- The scheme of a URL without the driver after a plus. -/
def plainScheme (url : String) : String :=
  String.ofList ((urlScheme url).takeWhile (· != '+'))

/-- A database URL is there, and names a kind of database. -/
def urlRule (url : String) : Option String :=
  if url.isEmpty then some "Database URL cannot be empty"
  else
    let scheme := plainScheme url
    let names := DatabaseKind.all.map DatabaseKind.label
    if names.contains scheme then none
    else some (s!"Unsupported database scheme: {scheme}. Supported: " ++
      Value.written (.list (names.map .text)))

/-- A port has 16 bits and is not zero. -/
def portRule (port : Int) : Option String :=
  if 1 ≤ port ∧ port ≤ 65535 then none else some "Port must be between 1 and 65535"

/-- A limit of expressions is positive. -/
def limitRule (limit : Int) : Option String :=
  if limit < 1 then some "Expression limits must be at least 1" else none

/-- Reads settings; what is not given has its default. -/
def check (fields : Fields Value) : Checked Settings :=
  let d : Settings := {}
  let text (name : String) (default : String) := Shape.defaulted fields name default Shape.text
  let truth (name : String) := Shape.defaulted fields name false Shape.truth
  let number (name : String) (default : Int) (rule : Int → Option String) :=
    Shape.defaulted fields name default fun v => (Shape.integer v).ensure rule
  Settings.mk <$> text "app_name" d.appName
    <*> text "app_version" d.appVersion
    <*> truth "debug"
    <*> text "host" d.host
    <*> number "port" d.port portRule
    <*> truth "reload"
    <*> Shape.defaulted fields "database_url" d.databaseUrl
      (fun v => (Shape.text v).ensure urlRule)
    <*> truth "database_echo"
    <*> number "max_expression_length" d.maxExpressionLength limitRule
    <*> number "max_expression_depth" d.maxExpressionDepth limitRule
    <*> Shape.defaulted fields "log_level" d.logLevel (Shape.oneOf LogLevel.all LogLevel.label)
    <*> text "log_format" d.logFormat
    <*> Shape.optional fields "log_file" Shape.text
    <*> number "log_max_size" d.logMaxSize (fun _ => none)
    <*> number "log_backup_count" d.logBackupCount (fun _ => none)
    <*> truth "log_structured"
    <*> Shape.defaulted fields "cors_origins" d.corsOrigins Shape.list
    <*> Shape.defaulted fields "cors_methods" d.corsMethods Shape.list

/-- Settings as a map. -/
def toFields (s : Settings) : Fields Value :=
  [("app_name", .text s.appName),
   ("app_version", .text s.appVersion),
   ("debug", .bool s.debug),
   ("host", .text s.host),
   ("port", .int s.port),
   ("reload", .bool s.reload),
   ("database_url", .text s.databaseUrl),
   ("database_echo", .bool s.databaseEcho),
   ("max_expression_length", .int s.maxExpressionLength),
   ("max_expression_depth", .int s.maxExpressionDepth),
   ("log_level", .text s.logLevel.label),
   ("log_format", .text s.logFormat),
   ("log_file", .ofText? s.logFile),
   ("log_max_size", .int s.logMaxSize),
   ("log_backup_count", .int s.logBackupCount),
   ("log_structured", .bool s.logStructured),
   ("cors_origins", .list s.corsOrigins),
   ("cors_methods", .list s.corsMethods)]

/-! ## What follows from settings -/

/-- The kind of the database at a URL, by the start of the URL. -/
def kindAt (url : String) : Result DatabaseKind :=
  let scheme := urlScheme url
  match DatabaseKind.all.find? fun k => k.label.toList.isPrefixOf scheme with
  | some kind => .ok kind
  | none => .error (.ofMishap .value s!"Unknown database type: {String.ofList scheme}")

/-- The kind of the database. -/
def databaseKind (s : Settings) : Result DatabaseKind := kindAt s.databaseUrl

/-- Whether the database is a file or in memory. -/
def isSqlite (s : Settings) : Result Bool := (· == DatabaseKind.sqlite) <$> s.databaseKind

/-- Whether the program serves for real. -/
def isProduction (s : Settings) : Bool := !s.debug && !s.reload

/-- The limits of expressions. -/
def limits (s : Settings) : Expression.Limits :=
  { maxLength := s.maxExpressionLength, maxDepth := s.maxExpressionDepth }

/-- How the server is run. -/
def serverOptions (s : Settings) : Fields Value :=
  [("host", .text s.host),
   ("port", .int s.port),
   ("reload", .bool s.reload),
   ("log_level", .text (Text.lowered s.logLevel.label)),
   ("access_log", .bool s.debug)]

/-- Settings for development. -/
def development : Settings :=
  { debug := true, reload := true, logLevel := .debug, databaseEcho := true }

/-- Settings for production. -/
def production : Settings := { logStructured := true, corsOrigins := [] }

/-- Settings for tests. -/
def testing : Settings :=
  { debug := true, databaseUrl := "sqlite:///:memory:", logLevel := .warning }

end Settings
end RecordRules
