import RecordRules.CommandLine.Arguments
import RecordRules.Log.Basic
import RecordRules.Sample
import RecordRules.Site

/-!
# The programs

* `CommandLine.manage` serves requests, sets up the database, and shows or validates the settings.
* `CommandLine.prepare` makes the tables of the database, and loads the sample if asked to.

Both take the site where they run and their arguments.  A `Performance` is what they show and do,
and how the site is afterwards.
-/

set_option autoImplicit false

namespace RecordRules
namespace CommandLine

/-- How requests are to be served. -/
inductive Serving where
  /-- By this process. -/
  | here (settings : Settings)
  /-- By processes that each read the settings anew. -/
  | workers (count : Int) (settings : Settings)
deriving Inhabited

/-- How a program ends. -/
inductive Ending where
  /-- It has done everything. -/
  | done
  | exit (code : Nat)
  /-- Something went wrong that it does not expect. -/
  | failure (failure : Failure)
deriving Inhabited

/-- What a program shows and does, and how the site is afterwards. -/
structure Performance where
  site : Site
  lines : List String := []
  complaint : Option String := none
  served : Option Serving := none
  ending : Ending := .done
deriving Inhabited

/-- The site, unless a failure ends the program. -/
abbrev Progress := Except Failure Site

/-! ## Commands -/

/-- An option with a text. -/
def textOption (name : String) : OptionRule := ⟨[name], .text⟩

/-- The option that asks for help. -/
def helpOption : OptionRule := ⟨["-h", "--help"], .help⟩

/-- A command without options of its own. -/
def plainCommand (choice : String) (commands : List (String × Command)) : Command :=
  .mk [helpOption] choice commands

/-- A command without anything. -/
def bareCommand : Command := plainCommand "" []

/-- The command that serves requests. -/
def serveCommand : Command :=
  .mk [helpOption, textOption "--host", ⟨["--port"], .integer⟩, ⟨["--reload"], .nothing⟩,
    ⟨["--workers"], .integer⟩] "" []

/-- The settings for a purpose, by its name. -/
def presets : List (String × Settings) :=
  [("development", .development), ("production", .production), ("testing", .testing)]

/-- The command line of `manage`. -/
def manageCommand : Command :=
  .mk [helpOption, ⟨["--env"], .oneOf (presets.map Prod.fst)⟩, textOption "--config",
      textOption "--database-url", ⟨["--log-level"], .oneOf (LogLevel.all.map LogLevel.label)⟩,
      textOption "--log-file"]
    "command"
    [("serve", serveCommand),
     ("db", plainCommand "db_command" [("init", bareCommand), ("reset", bareCommand)]),
     ("config", plainCommand "config_command" [("show", bareCommand), ("validate", bareCommand)])]

/-- The command line of `prepare`. -/
def prepareCommand : Command :=
  .mk [helpOption, textOption "--config", ⟨["--seed"], .nothing⟩] "" []

/-- What becomes of a command line that is not carried out. -/
def refuse (site : Site) : Refused → Performance
  | .help => { site, ending := .exit 0 }
  | .wrong program complaint =>
    { site, complaint := some s!"{program}: error: {complaint.message}", ending := .exit 2 }

/-! ## Settings -/

/-- The settings with what the arguments say. -/
def overridden (a : Arguments) (s : Settings) : Settings :=
  { s with
    databaseUrl := (a.text? "--database-url").getD s.databaseUrl
    logLevel := ((a.text? "--log-level").bind fun name =>
      LogLevel.all.find? fun l => l.label == name).getD s.logLevel
    logFile := a.text? "--log-file" <|> s.logFile
    host := (a.text? "--host").getD s.host
    port := match a.integer? "--port" with
      | some n => if n = 0 then s.port else n
      | none => s.port
    reload := a.given "--reload" || s.reload }

/-- The settings that a file of variables and the environment give, and the site with the
variables. -/
def loadSettings (site : Site) (path : Option String) : Result Settings × Site :=
  match Settings.loadedEnvironment site.environment site.files path with
  | .ok environment => (Settings.ofEnvironment environment, { site with environment })
  | .error e => (.error e, site)

/-- The file of variables that the arguments name. -/
def configPath (a : Arguments) : Option String := a.text? "--config"

/-- The settings that the arguments give. -/
def settingsOf (site : Site) (a : Arguments) : Result Settings × Site :=
  match (a.text? "--env").bind fun name => presets.find? fun (known, _) => known == name with
  | some (_, preset) => (.ok (overridden a preset), site)
  | none =>
    let (r, site) := loadSettings site (configPath a)
    (r.map (overridden a), site)

/-- The lines that show settings. -/
def shownSettings (s : Settings) : List String :=
  ["Current Configuration:",
   "  App Name: " ++ s.appName,
   "  Version: " ++ s.appVersion,
   "  Debug: " ++ Value.written (.bool s.debug),
   "  Host: " ++ s.host,
   s!"  Port: {s.port}",
   "  Database URL: " ++ s.databaseUrl,
   "  Log Level: " ++ s.logLevel.label,
   s!"  Max Expression Length: {s.maxExpressionLength}",
   s!"  Max Expression Depth: {s.maxExpressionDepth}"]

/-! ## The database -/

/-- Carries out an operation on the database of a URL. -/
def withDatabase (site : Site) (url : String) (action : Database → Result Database) : Progress := do
  let location ← Location.ofUrl url
  let db ← site.openDatabase location
  return site.keepDatabase (← action db) location

/-- Makes the tables and indexes that are missing. -/
def prepareTables (db : Database) : Result Database := do (← db.createTables).migrate

/-- Makes all tables and indexes anew. -/
def resetTables (db : Database) : Result Database := do prepareTables (← db.dropTables)

/-! ## Managing -/

/-- Whether a failure is about a value, so that it is shown to the user. -/
def isAboutValue : Failure → Bool
  | .violations .. => true
  | .mishap m => m.kind = .value
  | .fault _ => false

/-- What becomes of a failure. -/
def fail (site : Site) (lines : List String) (f : Failure) : Performance :=
  if isAboutValue f then { site, lines := lines ++ ["Error: " ++ f.message], ending := .exit 1 }
  else { site, lines, ending := .failure f }

/-- A command that is missing. -/
def incomplete (site : Site) (kind : String) : Performance :=
  { site, lines := [kind ++ " command required. Use --help for options."], ending := .exit 1 }

/-- Serves requests by this process, or by several. -/
def serve (site : Site) (s : Settings) (workers : Int) : Performance :=
  if 1 < workers || s.reload then { site, served := some (.workers workers s) }
  else
    match s.interfaceProblem? with
    | some problem => fail site [] problem
    | none => { site, served := some (.here s) }

/-- Changes the database. -/
def changeDatabase (site : Site) (s : Settings) (action : Database → Result Database) :
    Performance :=
  match withDatabase site s.databaseUrl action with
  | .ok site => { site }
  | .error f => fail site [] f

/-- Carries out the command of the arguments with valid settings. -/
def carryOut (site : Site) (a : Arguments) (s : Settings) : Performance :=
  match a.command? "command" with
  | some "db" =>
    match a.command? "db_command" with
    | some "init" => changeDatabase site s prepareTables
    | some _ => changeDatabase site s resetTables
    | none => incomplete site "Database"
  | some "config" =>
    match a.command? "config_command" with
    | some "show" => { site, lines := shownSettings s }
    | some _ => { site, lines := ["Configuration validation: PASSED"] }
    | none => incomplete site "Configuration"
  | _ => serve site s ((a.integer? "--workers").getD 1)

/-- The log that settings ask for is opened. -/
def openLog (site : Site) (s : Settings) : Progress := do
  let (_, files) ← Log.ofSetup site.files { level := s.logLevel.label, file := s.logFile }
  return { site with files }

/-- The program that serves requests and manages what they need. -/
def manage (site : Site) (args : List String) : Performance :=
  match manageCommand.read "recordflow" args with
  | .error r => refuse site r
  | .ok a =>
    match settingsOf site a with
    | (.error f, site) => fail site [] f
    | (.ok s, site) =>
      let (valid, files) := s.validate site.files
      let site := { site with files }
      match valid with
      | .error f => fail site [] f
      | .ok () =>
        match openLog site s with
        | .error f => fail site [] f
        | .ok site => carryOut site a s

/-! ## Preparing -/

/-- What becomes of a failure of the store; any other is not expected. -/
def giveUp (site : Site) (f : Failure) : Performance :=
  match f with
  | .fault fault =>
    if fault.kind = .storage then { site, ending := .exit 1 } else { site, ending := .failure f }
  | f => { site, ending := .failure f }

/-- The program that prepares the database. -/
def prepare (site : Site) (args : List String) : Performance :=
  match prepareCommand.read "init_db.py" args with
  | .error r => refuse site r
  | .ok a =>
    match loadSettings site (configPath a) with
    | (.error f, site) => { site, ending := .failure f }
    | (.ok s, site) =>
      match Location.ofUrl s.databaseUrl with
      | .error f => giveUp site f
      | .ok location =>
        match site.openDatabase location >>= prepareTables with
        | .error f => giveUp site f
        | .ok db =>
          let (loaded, db) := if a.given "--seed" then Sample.load db site.now else (.ok (), db)
          let site := site.keepDatabase db location
          match loaded with
          | .ok () => { site }
          | .error f => giveUp site f

/-! ## Repetition -/

/-- Runs a program so many times, until it does not end regularly.  What is shown adds up. -/
def repeated (program : Site → Performance) : Nat → Site → List Performance
  | 0, _ => []
  | times + 1, site =>
    let p := program site
    match p.ending with
    | .done => p :: repeated program times p.site
    | _ => [p]

end CommandLine
end RecordRules
