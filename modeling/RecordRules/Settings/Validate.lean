import RecordRules.Settings.FileTree
import RecordRules.Settings.VariableFile

/-!
# Settings and files

* `Settings.load` reads settings from a file of variables and the environment.
* `Settings.validate` makes the directories for the database and the log file.
* `Settings.prepare` also checks that the settings describe an interface.
-/

set_option autoImplicit false

namespace RecordRules
namespace Settings

/-- The environment with the variables of a file, if it is a file. -/
def withFile (env : Environment) (tree : FileTree) (path : String) : Result Environment :=
  match tree.find? path with
  | some (.file content) => VariableFile.extend env content
  | _ => .ok env

/-- The environment with the variables of a given file or else of `.env`, if they exist. -/
def loadedEnvironment (env : Environment) (tree : FileTree) (path : Option String) :
    Result Environment :=
  let given := path.getD ""
  if tree.contains given then withFile env tree given else withFile env tree ".env"

/-- The settings of a file of variables and the environment. -/
def load (env : Environment) (tree : FileTree) (path : Option String) : Result Settings :=
  loadedEnvironment env tree path >>= ofEnvironment

/-! ## Directories -/

/-- The path in a database URL. -/
def databasePath (url : String) : String :=
  match Text.cut? ":///".toList url.toList with
  | some (_, path) => String.ofList path
  | none => url

/-- Whether a database URL is that of a database in memory. -/
def isInMemory (url : String) : Bool := Text.occurs ":memory:".toList url.toList

/-- What is left to complain about. -/
abbrev Complaint := Option String

/-- Makes the directory of a file, unless it exists; if it cannot be made, there is a complaint.  A
path that is none at all is a failure. -/
def provide (tree : FileTree) (purpose file : String) : Result Complaint × FileTree :=
  let directory := directoryOf file
  if directory.isEmpty || tree.contains directory then (.ok none, tree)
  else
    match tree.makeDirectories directory with
    | (.ok (), made) => (.ok none, made)
    | (.error .unusable, made) => (.error (.ofMishap .value DirectoryError.unusable.message), made)
    | (.error e, made) =>
      (.ok (some s!"Cannot create {purpose} directory {directory}: {e.message}"), made)

/-- Makes the directory of the database, if it is a file. -/
def provideDatabase (s : Settings) (tree : FileTree) (isSqlite : Bool) :
    Result Complaint × FileTree :=
  if isSqlite && !isInMemory s.databaseUrl then
    provide tree "database" (databasePath s.databaseUrl)
  else (.ok none, tree)

/-- Makes the directory of the log file, if there is one. -/
def provideLog (s : Settings) (tree : FileTree) : Result Complaint × FileTree :=
  match s.logFile with
  | some file => if file.isEmpty then (.ok none, tree) else provide tree "log" file
  | none => (.ok none, tree)

/-- The result of complaints. -/
def settled : List Complaint → Result Unit
  | complaints =>
    match complaints.filterMap id with
    | [] => .ok ()
    | told =>
      .error (.ofMishap .value
        ("Configuration validation failed: " ++ String.intercalate "; " told))

/-- Makes the directories that the settings need. -/
def validate (s : Settings) (tree : FileTree) : Result Unit × FileTree :=
  match s.isSqlite with
  | .error e => (.error e, tree)
  | .ok isSqlite =>
    match s.provideDatabase tree isSqlite with
    | (.error e, tree) => (.error e, tree)
    | (.ok forDatabase, tree) =>
      match s.provideLog tree with
      | (.error e, tree) => (.error e, tree)
      | (.ok forLog, tree) => (settled [forDatabase, forLog], tree)

/-! ## The interface -/

/-- What keeps an interface from being described: it has to have a title and a version. -/
def undescribed? (title version : Value) : Option Failure :=
  if !title.isPresent then
    some (.ofMishap .assertion "A title must be provided for OpenAPI, e.g.: 'My API'")
  else if !version.isPresent then
    some (.ofMishap .assertion "A version must be provided for OpenAPI, e.g.: '2.1.0'")
  else none

/-- What keeps settings from describing an interface. -/
def interfaceProblem? (s : Settings) : Option Failure :=
  undescribed? (.text s.appName) (.text s.appVersion)

/-- Makes the directories that the settings need and the interface that they describe. -/
def prepare (s : Settings) (tree : FileTree) : Result Unit × FileTree :=
  match s.validate tree with
  | (.error e, made) => (.error e, made)
  | (.ok (), made) =>
    match s.interfaceProblem? with
    | some problem => (.error problem, made)
    | none => (.ok (), made)

end Settings
end RecordRules
