import RecordRules.Settings.FileTree
import RecordRules.Settings.Basic
import RecordRules.Value.Template

/-!
# The log

What happens is logged by named loggers, each at a level.

* `Log.Setup` says what is logged and how: as JSON, one object a line, or by a template.
* `Log.ofSetup` opens the log; `Log.write` writes an event to it, unless its logger is not
  interested in the level.  Facts of the context are added to every event.
* A log can also go to a file, which starts anew before it grows beyond a size.

An event is written without the time and the place of the program at which it happened.
-/

set_option autoImplicit false

namespace RecordRules

/-- What is logged and how. -/
structure LogSetup where
  level : String := "INFO"
  file : Option String := none
  template : Option String := none
  structured : Bool := false
  maxSize : Int := 10485760
  backupCount : Int := 5
deriving Inhabited

/-- An event. -/
structure LogEvent where
  level : Nat
  /-- A template, if there are values for it. -/
  message : String
  values : List Value := []
  /-- The message of the error that is being handled. -/
  error : Option String := none
  facts : Fields Value := []
deriving Inhabited

/-- A log file: its lines, and their size in bytes. -/
structure LogFile where
  lines : List String := []
  size : Nat := 0
  maxSize : Int
  backupCount : Int
deriving Inhabited

/-- The lines that a text has. -/
def LogFile.linesOf (text : String) : List String :=
  (Text.pieces ['\n'] text.toList).map String.ofList

/-- Whether a file starts anew before so many characters are written. -/
def LogFile.isFull (file : LogFile) (length : Nat) : Bool :=
  0 < file.maxSize && file.maxSize ≤ file.size + length

/-- Writes a text to a file, with a number of characters that are not shown.  A full file is put
aside first, if any such are kept. -/
def LogFile.write (file : LogFile) (hidden : Nat) (text : String) : LogFile :=
  let here := if file.isFull (text.length + hidden + 1) && 0 < file.backupCount then
      { file with lines := [], size := 0 }
    else file
  { here with
    lines := here.lines ++ linesOf text
    size := here.size + text.utf8ByteSize + hidden + 1 }

/-- An open log. -/
structure Log where
  /-- The least level that the root and other loggers write, by their name. -/
  levels : List (String × Nat)
  structured : Bool
  template : String
  file : Option LogFile := none
  context : Fields Value := []
deriving Inhabited

namespace Log

/-! ## Levels -/

/-- The levels by their names. -/
def namedLevels : List (String × Nat) :=
  LogLevel.all.map (fun l => (l.label, l.number)) ++
    [("WARN", LogLevel.warning.number), ("FATAL", LogLevel.critical.number), ("NOTSET", 0)]

/-- The template that stands under a name among the levels. -/
def basicTemplate : String := "%(levelname)s:%(name)s:%(message)s"

/-- The level of a name. -/
def level (name : String) : Result Nat :=
  match namedLevels.find? fun (known, _) => known == name with
  | some (_, n) => .ok n
  | none =>
    if name == "BASIC_FORMAT" then
      .error (.ofMishap .value ("Unknown level: " ++ Text.quoted basicTemplate))
    else .error (.ofMishap .attribute s!"module 'logging' has no attribute '{name}'")

/-- The name of a level. -/
def levelName (n : Nat) : String :=
  match LogLevel.all.find? fun l => l.number = n with
  | some l => l.label
  | none => if n = 0 then "NOTSET" else s!"Level {n}"

/-- The name of the logger above all others. -/
def root : String := "root"

/-- The levels of all loggers that have one of their own. -/
def levelsFor (least : Nat) (debugging : Bool) : List (String × Nat) :=
  [(root, least),
   ("uvicorn", LogLevel.info.number),
   ("uvicorn.access", LogLevel.warning.number),
   ("sqlalchemy.engine", LogLevel.warning.number),
   ("sqlalchemy.pool", LogLevel.warning.number),
   ("recordflow.core", if debugging then LogLevel.debug.number else LogLevel.info.number),
   ("recordflow.api", LogLevel.info.number)]

/-- The names of the loggers above one, from the nearest, and its own. -/
def ancestors (name : String) : List String :=
  let parts := Text.pieces ['.'] name.toList
  (List.range (parts.length)).map fun n =>
    String.ofList (List.intercalate ['.'] (parts.take (parts.length - n)))

/-- The least level that a logger writes: its own, or that of the nearest logger above that has
one. -/
def leastLevel (log : Log) (name : String) : Nat :=
  let own (name : String) : Option Nat :=
    ((log.levels.find? fun (known, n) => known == name && n != 0)).map Prod.snd
  ((ancestors name ++ [root]).findSome? own).getD 0

/-! ## Opening -/

/-- The template of a log without one. -/
def defaultTemplate : String :=
  "%(asctime)s - %(name)s - %(levelname)s - [%(module)s:%(funcName)s:%(lineno)d] - %(message)s"

/-- The template that a setup gives.  It has to name something of an event. -/
def templateOf (setup : LogSetup) : Result String :=
  match setup.template with
  | none => .ok defaultTemplate
  | some "" => .ok "%(message)s"
  | some template =>
    if Template.hasNamedPlace template.toList then .ok template
    else .error (.ofMishap .value s!"Invalid format '{template}' for '%' style")

/-- A directory error as a failure. -/
def fileFailure (e : DirectoryError) : Failure :=
  let kind : Mishap.Kind := match e with
    | .missing _ => .fileMissing
    | .taken _ => .fileExists
    | .notADirectory _ => .notADirectory
    | .nameTooLong _ => .file
    | .unusable => .value
  .ofMishap kind e.message

/-- The directory of a file, without empty steps and steps that stay. -/
def directory (file : String) : String :=
  let parts := (FileTree.parts file).filter fun part => !part.isEmpty && part != "."
  let path := String.intercalate "/" parts.dropLast
  if file.startsWith "/" then "/" ++ path else if path.isEmpty then "." else path

/-- Makes a directory and, if it is missing, the one above it first; at most so many. -/
def provide : Nat → FileTree → String → Except DirectoryError FileTree
  | 0, t, path => t.ensureDirectory path
  | levels + 1, t, path =>
    match t.makeDirectory path with
    | .ok made => .ok made
    | .error (.missing _) => do (← provide levels t (directory path)).ensureDirectory path
    | .error e => if t.isDirectory path then .ok t else .error e

/-- A path from the root, without empty steps and steps that stay. -/
def absolute (t : FileTree) (file : String) : String :=
  "/" ++ String.intercalate "/" ((t.follow (t.start file) (FileTree.parts file)).getD [])

/-- Makes sure that a file can be written. -/
def openFile (t : FileTree) (file : String) : Result FileTree := do
  let t ← (provide file.length t (directory file)).mapError fileFailure
  if !isUsablePath file then throw (fileFailure .unusable)
  else if t.isDirectory file then
    throw (.ofMishap .isADirectory ("[Errno 21] Is a directory: " ++ Text.quoted (absolute t file)))
  else if FileTree.longestName < (splitPath file).2.utf8ByteSize then
    throw (fileFailure (.nameTooLong (absolute t file)))
  else return t

/-- Opens a log. -/
def ofSetup (t : FileTree) (setup : LogSetup) : Result (Log × FileTree) := do
  let template ← if setup.structured then pure "" else templateOf setup
  let name := Text.uppered setup.level
  let least ← level name
  let log : Log :=
    { levels := levelsFor least (name == LogLevel.debug.label)
      structured := setup.structured, template }
  match setup.file.getD "" with
  | "" => return (log, t)
  | file =>
    let t ← openFile t file
    let file : LogFile := { maxSize := setup.maxSize, backupCount := setup.backupCount }
    return ({ log with file := some file }, t)

/-! ## Writing -/

/-- The kind of the errors that are logged. -/
def errorKind : String := "RuntimeError"

/-- The message of an event with its values filled in. -/
def message? (e : LogEvent) : Option String :=
  if e.values.isEmpty then some e.message else Template.fill? e.message e.values

/-- The facts of an event; those of the context come last and win. -/
def facts (log : Log) (e : LogEvent) : Fields Value := e.facts.setAll log.context

/-- An event as a JSON object. -/
def object (log : Log) (logger : String) (e : LogEvent) (message : String) : Fields Value :=
  let entry : Fields Value :=
    [("level", .text (levelName e.level)), ("logger", .text logger), ("message", .text message)]
  let error : Fields Value := match e.error with
    | some m => [("exception", .map [("type", .text errorKind), ("message", .text m)])]
    | none => []
  (entry ++ error).setAll (log.facts e)

/-- The values of an event as a template names them: a single map that is not empty stands for
itself. -/
def valuesOf (e : LogEvent) : Value :=
  match e.values with
  | [.map (entry :: rest)] => .map (entry :: rest)
  | values => .tuple values

/-- What a template can name of an event.  Without an error, there is nothing in its places. -/
def named (log : Log) (logger : String) (e : LogEvent) (message : String) : Fields Value :=
  let error : Fields Value :=
    if e.error.isSome then [] else [("exc_info", .null), ("exc_text", .null)]
  [("name", .text logger), ("levelname", .text (levelName e.level)), ("levelno", .int e.level),
   ("message", .text message), ("msg", .text e.message), ("args", valuesOf e),
   ("stack_info", .null), ("threadName", .text "MainThread"),
   ("processName", .text "MainProcess"), ("extra_fields", .map (log.facts e))] ++ error

/-- About how many characters the time and the place of an event take: in an object there are always
some, in the line of a template none. -/
def hidden (log : Log) : Nat := if log.structured then 104 else 0

/-- The line of an event, unless its values do not fit or cannot be written. -/
def line? (log : Log) (logger : String) (e : LogEvent) : Option String := do
  let message ← message? e
  if log.structured then
    (Json.encode? .asGiven (.map (log.object logger e message))).toOption
  else Template.fill? log.template [.map (log.named logger e message)]

/-- Writes an event, and yields the lines written that are not blank.  The logger without a name is
the root.  Events without a level are never written. -/
def write (log : Log) (given : String) (e : LogEvent) : List String × Log :=
  let logger := if given.isEmpty then root else given
  if e.level = 0 || e.level < log.leastLevel logger then ([], log)
  else
    match log.line? logger e with
    | none => ([], log)
    | some text =>
      let file := log.file.map fun f => LogFile.write f log.hidden text
      ((LogFile.linesOf text).filter fun line => !Text.allBlank line, { log with file })

/-- Adds facts to the context. -/
def addContext (log : Log) (facts : Fields Value) : Log :=
  { log with context := log.context.setAll facts }

/-- Forgets the context. -/
def clearContext (log : Log) : Log := { log with context := [] }

/-- The parameters beside which the facts of an event stand. -/
def reserved : List String := ["logger", "level", "message"]

/-- Writes an event with facts of its own.  They cannot have the name of a parameter. -/
def writeWith (log : Log) (logger : String) (e : LogEvent) : Result (List String) × Log :=
  match e.facts.names.find? reserved.contains with
  | some name =>
    (.error (.ofMishap .type s!"log_with_context() got multiple values for argument '{name}'"), log)
  | none =>
    let (lines, log) := log.write logger e
    (.ok lines, log)

/-- The kinds of outputs of a log. -/
def outputs (log : Log) : List String :=
  "StreamHandler" :: if log.file.isSome then ["RotatingFileHandler"] else []

end Log
end RecordRules
