import RecordRules.CommandLine.Outcome

/-!
# The program

Runs `CommandLine.manage` with the variables and files that matter to it, shows what it shows, and
makes the directories it makes.  If it serves, requests are read from standard input, one a line,
and answered on standard output.  The database lives as long as the program.
-/

set_option autoImplicit false

open RecordRules CommandLine

/-- The content of a file, if it can be read. -/
def contentOf (path : String) : IO (Option String) := do
  try
    return some (← IO.FS.readFile path)
  catch _ =>
    return none

/-- The variables that are set. -/
def currentEnvironment : IO Environment :=
  variablesRead.filterMapM fun name => do
    return (← IO.getEnv name).map fun value => (name, value)

/-- The site of a command line. -/
def currentSite (args : List String) : IO Site := do
  let here := (FileTree.parts (toString (← IO.currentDir))).filter fun part => !part.isEmpty
  let above := (List.range here.length).map fun n => (here.take (n + 1), FileNode.directory)
  let tree : FileTree := { nodes := above, working := here }
  let files ← (filesRead args).foldlM (fun (t : FileTree) path => do
    match ← contentOf path with
    | none => return t
    | some content =>
      match t.makeDirectories (directoryOf path) with
      | (.ok (), made) => return made.put (({ files := made } : Site).fullPath path) (.file content)
      | (.error _, _) => return t) tree
  return { environment := ← currentEnvironment, files }

/-- Answers requests until there are no more. -/
partial def answerRequests (s : System) (input output : IO.FS.Stream) : IO Unit := do
  let line ← input.getLine
  if line.isEmpty then return
  let (answer, after) := answerLine s line
  output.putStrLn answer
  output.flush
  answerRequests after input output

def main (args : List String) : IO UInt32 := do
  let site ← currentSite args
  let performance := manage site args
  for line in performance.lines do
    IO.println line
  for line in performance.complaints do
    IO.eprintln line
  for path in performance.madeDirectories site do
    IO.FS.createDirAll path
  match performance.served with
  | some serving =>
    answerRequests (serving.system performance.site) (← IO.getStdin) (← IO.getStdout)
  | none => pure ()
  return performance.code.toUInt32
