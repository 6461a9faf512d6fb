import RecordRules.CommandLine.Program
import RecordRules.Service.Line
import RecordRules.Service.Respond

/-!
# What becomes of a performance

* `Performance.code` is the code with which the program ends, `Performance.complaints` what it says
  about why.
* `Performance.madeDirectories` are the directories it has made.
* `Serving.system` is the system that answers requests.
-/

set_option autoImplicit false

namespace RecordRules
namespace CommandLine

namespace Performance

/-- The code with which a program ends. -/
def code (p : Performance) : Nat :=
  match p.ending with
  | .done => 0
  | .exit code => code
  | .failure _ => 1

/-- What a program says about why it ends. -/
def complaints (p : Performance) : List String :=
  p.complaint.toList ++
    match p.ending with
    | .failure f => [f.message]
    | _ => []

/-- The directories that a program has made, from the root. -/
def madeDirectories (before : Site) (p : Performance) : List String :=
  p.site.files.nodes.filterMap fun (path, node) =>
    if node = .directory && before.files.node? path = none then
      some ("/" ++ String.intercalate "/" path)
    else none

end Performance

namespace Serving

/-- The settings of a service. -/
def settings : Serving → Settings
  | .here s => s
  | .workers _ s => s

/-- The system that answers requests. -/
def system (serving : Serving) (site : Site) : System :=
  { checker := { limits := serving.settings.limits }
    service := { settings := serving.settings, site, standalone := true } }

end Serving

/-- The paths of files whose content matters to a command line. -/
def filesRead (args : List String) : List String :=
  ".env" :: match manageCommand.read "" args with
    | .ok a => (configPath a).toList
    | .error _ => []

/-- The names of the variables that matter. -/
def variablesRead : List String :=
  VariableFile.disabling.1 ::
    (Settings.toFields {}).names.map fun name => Settings.variablePrefix ++ Text.uppered name

/-- The response to a request on a line, and the system afterwards. -/
def answerLine (s : System) (line : String) : String × System :=
  match s.respond (Request.ofLine line) with
  | (.ok response, after) => (response.line, after)
  | (.error f, after) => (f.message, after)

end CommandLine
end RecordRules
