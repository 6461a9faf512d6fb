import RecordRules.Number.Reading
import RecordRules.Settings.Basic

/-!
# Settings from the environment

Every setting can be given as a variable of the environment, under its name in capitals after
`RECORDFLOW_`.  What is not given has its default.

`Settings.ofEnvironment` reads the variables one by one, and then checks the settings as a whole.
-/

set_option autoImplicit false

namespace RecordRules

/-- The variables of an environment. -/
abbrev Environment := Fields String

namespace Settings

/-- The start of the names of all variables. -/
def variablePrefix : String := "RECORDFLOW_"

/-- The value of the variable for a setting. -/
def given? (env : Environment) (name : String) : Option String :=
  Fields.get? env (variablePrefix ++ name)

/-- A text from the environment. -/
def textVariable (env : Environment) (name default : String) : Value :=
  .text ((given? env name).getD default)

/-- A truth value from the environment; anything but a word for true is false. -/
def truthVariable (env : Environment) (name : String) : Value :=
  match given? env name with
  | some s => .bool (["true", "1", "yes", "on"].contains (Text.lowered s))
  | none => .bool false

/-- An integer from the environment. -/
def numberVariable (env : Environment) (name : String) (default : Int) : Result Value :=
  match given? env name with
  | none => .ok (.int default)
  | some s =>
    match integerDigits? s.toList with
    | none =>
      .error (.ofMishap .value ("invalid literal for int() with base 10: " ++ Text.quoted s))
    | some (negative, digits) =>
      if digitLimit < digits.length then
        .error (.ofMishap .value (ValueError.literalTooLong digits.length).message)
      else
        let n : Int := Text.readDigits digits
        .ok (.int (if negative then -n else n))

/-- A list from the environment, its items separated by commas. -/
def listVariable (env : Environment) (name : String) (default : List Value) : Value :=
  match given? env name with
  | none => .list default
  | some s =>
    if s.isEmpty then .list default
    else .list ((Text.pieces [','] s.toList).map fun cs => .text (String.ofList cs))

/-- The level of logging from the environment, in any case. -/
def levelVariable (env : Environment) (default : LogLevel) : Result Value :=
  let label := Text.uppered ((given? env "LOG_LEVEL").getD default.label)
  if LogLevel.all.any fun level => level.label == label then .ok (.text label)
  else .error (.ofMishap .value (Text.quoted label ++ " is not a valid LogLevel"))

/-- The settings that the environment gives. -/
def ofEnvironment (env : Environment) : Result Settings := do
  let d : Settings := {}
  let port ← numberVariable env "PORT" d.port
  let maxLength ← numberVariable env "MAX_EXPRESSION_LENGTH" d.maxExpressionLength
  let maxDepth ← numberVariable env "MAX_EXPRESSION_DEPTH" d.maxExpressionDepth
  let level ← levelVariable env d.logLevel
  let maxSize ← numberVariable env "LOG_MAX_SIZE" d.logMaxSize
  let backupCount ← numberVariable env "LOG_BACKUP_COUNT" d.logBackupCount
  (check
    [("app_name", textVariable env "APP_NAME" d.appName),
     ("app_version", textVariable env "APP_VERSION" d.appVersion),
     ("debug", truthVariable env "DEBUG"),
     ("host", textVariable env "HOST" d.host),
     ("port", port),
     ("reload", truthVariable env "RELOAD"),
     ("database_url", textVariable env "DATABASE_URL" d.databaseUrl),
     ("database_echo", truthVariable env "DATABASE_ECHO"),
     ("max_expression_length", maxLength),
     ("max_expression_depth", maxDepth),
     ("log_level", level),
     ("log_format", textVariable env "LOG_FORMAT" d.logFormat),
     ("log_file", .ofText? (given? env "LOG_FILE")),
     ("log_max_size", maxSize),
     ("log_backup_count", backupCount),
     ("log_structured", truthVariable env "LOG_STRUCTURED"),
     ("cors_origins", listVariable env "CORS_ORIGINS" d.corsOrigins),
     ("cors_methods", listVariable env "CORS_METHODS" d.corsMethods)]).toResult "AppConfig"

end Settings
end RecordRules
