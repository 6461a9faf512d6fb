import RecordRules.Schema.Assignment
import RecordRules.Settings.Validate

/-!
# Assigned settings

Settings can be assigned after they have been checked, and the new values are not checked.  What
follows from settings then has to be read off values of any type.

* `Settings.assign` assigns settings.
* `databaseKind`, `isProduction`, `serverOptions` and `limits` of `AssignedSettings`
  are what follows from them.
* `AssignedSettings.validate` and `AssignedSettings.interface` make what the settings need.
-/

set_option autoImplicit false

namespace RecordRules

/-- Settings some of which have been assigned. -/
structure AssignedSettings where
  fields : Fields Value
  /-- The level of the log, unless something else has been put in its place. -/
  logLevel : Option LogLevel
deriving Inhabited

/-- Assigns settings. -/
def Settings.assign (s : Settings) (changes : Fields Value) : Result AssignedSettings := do
  let fields ← Schema.assign "AppConfig" false s.toFields changes
  return { fields, logLevel := if changes.has "log_level" then none else some s.logLevel }

namespace AssignedSettings

/-- A setting. -/
def value (a : AssignedSettings) (name : String) : Value := Schema.value a.fields name

/-! ## What follows from settings -/

/-- The kind of the database. -/
def databaseKind (a : AssignedSettings) : Result DatabaseKind :=
  match a.value "database_url" with
  | .text url => Settings.kindAt url
  | v => .error (.noAttribute v "split")

/-- Whether the database is a file or in memory. -/
def isSqlite (a : AssignedSettings) : Result Bool := (· == DatabaseKind.sqlite) <$> a.databaseKind

/-- Whether the program serves for real. -/
def isProduction (a : AssignedSettings) : Bool :=
  !(a.value "debug").isPresent && !(a.value "reload").isPresent

/-- How the server is run. -/
def serverOptions (a : AssignedSettings) : Result (Fields Value) :=
  match a.logLevel with
  | none => .error (.noAttribute (a.value "log_level") "value")
  | some level =>
    .ok
      [("host", a.value "host"),
       ("port", a.value "port"),
       ("reload", a.value "reload"),
       ("log_level", .text (Text.lowered level.label)),
       ("access_log", a.value "debug")]

/-- The limits of expressions: their length and their depth. -/
def limits (a : AssignedSettings) : List Value :=
  [a.value "max_expression_length", a.value "max_expression_depth"]

/-! ## What settings need -/

/-- The failure of a value that is no path. -/
def noPath (v : Value) : Failure :=
  .ofMishap .type s!"expected str, bytes or os.PathLike object, not {v.typeLabel}"

/-- Makes the directories that the settings need. -/
def validate (a : AssignedSettings) (tree : FileTree) : Result Unit × FileTree :=
  match a.databaseKind, a.value "database_url" with
  | .ok kind, .text databaseUrl =>
    match a.value "log_file" with
    | .text file => Settings.validate { databaseUrl, logFile := some file } tree
    | v =>
      if !v.isPresent then Settings.validate { databaseUrl } tree
      else
        match Settings.provideDatabase { databaseUrl } tree (kind == .sqlite) with
        | (.error e, made) => (.error e, made)
        | (.ok _, made) => (.error (noPath v), made)
  | .error e, _ => (.error e, tree)
  | .ok _, v => (.error (.noAttribute v "split"), tree)

/-- What is wrong with the title or the version of an interface that is not a text. -/
def untold (a : AssignedSettings) : List Violation :=
  [("app_name", "title"), ("app_version", "version")].filterMap fun (setting, name) =>
    match a.value setting with
    | .text _ => none
    | _ => some ⟨[.field "info", .field name], .stringType⟩

/-- The interface that the settings describe. -/
def interface (a : AssignedSettings) (tree : FileTree) : Result (Fields Value) := do
  let _ ← (a.validate tree).1
  let title := a.value "app_name"
  let version := a.value "app_version"
  match Settings.undescribed? title version, a.untold with
  | some problem, _ => throw problem
  | none, [] => return [("title", title), ("version", version), ("debug", a.value "debug")]
  | none, violations => throw (.violations "OpenAPI" violations)

end AssignedSettings
end RecordRules
