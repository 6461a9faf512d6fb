import RecordRules.Text.Quoted
import RecordRules.Text.Split

/-!
# Files and directories

A `FileTree` is a working directory with what exists around it.  Paths are texts whose parts are
separated by slashes; they are absolute or start from the working directory.

`FileTree.makeDirectories` makes a directory together with those above it that are missing.
-/

set_option autoImplicit false

namespace RecordRules

/-- What stands at a path. -/
inductive FileNode where
  | directory
  | file (content : String)
deriving DecidableEq, Repr, Inhabited

/-- Files and directories by their path from the root, and the working directory. -/
structure FileTree where
  nodes : List (List String × FileNode) := []
  working : List String := []
deriving Inhabited

/-- Why a directory cannot be made. -/
inductive DirectoryError where
  | missing (path : String)
  | taken (path : String)
  | notADirectory (path : String)
  | nameTooLong (path : String)
  /-- The path holds a character that no path can hold. -/
  | unusable
deriving DecidableEq, Repr

/-- The wording of a directory error. -/
def DirectoryError.message : DirectoryError → String
  | .missing path => "[Errno 2] No such file or directory: " ++ Text.quoted path
  | .taken path => "[Errno 17] File exists: " ++ Text.quoted path
  | .notADirectory path => "[Errno 20] Not a directory: " ++ Text.quoted path
  | .nameTooLong path => "[Errno 36] File name too long: " ++ Text.quoted path
  | .unusable => "embedded null byte"

/-! ## Paths -/

/-- The part of a path before its last slash, and the part after it.  Slashes at the end of the
first part are dropped, unless it has nothing else. -/
def splitPath (path : String) : String × String :=
  let reversed := path.toList.reverse
  let tail := reversed.takeWhile (· != '/')
  let head := reversed.dropWhile (· != '/')
  let plain := head.dropWhile (· == '/')
  let first := if plain.isEmpty then head.reverse else plain.reverse
  (String.ofList first, String.ofList tail.reverse)

/-- Whether a text can be a path at all. -/
def isUsablePath (path : String) : Bool := !path.toList.contains (Char.ofNat 0)

/-- The directory of a path. -/
def directoryOf (path : String) : String := (splitPath path).1

namespace FileTree

/-- What stands at a path from the root. -/
def node? (t : FileTree) (path : List String) : Option FileNode :=
  if path.isEmpty then some .directory
  else (t.nodes.find? fun n => n.1 == path).map Prod.snd

/-- Puts something at a path from the root. -/
def put (t : FileTree) (path : List String) (node : FileNode) : FileTree :=
  { t with nodes := t.nodes.filter (fun n => n.1 != path) ++ [(path, node)] }

/-- The parts of a path. -/
def parts (path : String) : List String := (Text.pieces ['/'] path.toList).map String.ofList

/-- Where a path starts. -/
def start (t : FileTree) (path : String) : List String :=
  if path.toList.head? == some '/' then [] else t.working

/-- Follows the parts of a path; every part but the last has to be a directory. -/
def follow (t : FileTree) : List String → List String → Option (List String)
  | here, [] => some here
  | here, part :: rest =>
    if t.node? here = some .directory then
      if part.isEmpty || part == "." then follow t here rest
      else if part == ".." then follow t here.dropLast rest
      else follow t (here ++ [part]) rest
    else none

/-- What stands at a path. -/
def find? (t : FileTree) (path : String) : Option FileNode :=
  if path.isEmpty then none else (t.follow (t.start path) (parts path)).bind t.node?

/-- Whether something stands at a path. -/
def contains (t : FileTree) (path : String) : Bool := (t.find? path).isSome

/-- Whether a directory stands at a path. -/
def isDirectory (t : FileTree) (path : String) : Bool := t.find? path == some .directory

/-- The bytes of the longest name of a file. -/
def longestName : Nat := 255

/-- Makes a directory in one that exists. -/
def makeDirectory (t : FileTree) (path : String) : Except DirectoryError FileTree :=
  let names := (parts path).filter fun part => !part.isEmpty
  if !isUsablePath path then .error .unusable
  else match names.getLast? with
  | none => .error (.taken path)
  | some name =>
    match t.follow (t.start path) names.dropLast with
    | none => .error (.notADirectory path)
    | some parent =>
      match t.node? parent with
      | none => .error (.missing path)
      | some (.file _) => .error (.notADirectory path)
      | some .directory =>
        if (t.find? path).isSome then .error (.taken path)
        else if longestName < name.utf8ByteSize then .error (.nameTooLong path)
        else .ok (t.put (parent ++ [name]) .directory)

/-- Makes a directory unless it exists. -/
def ensureDirectory (t : FileTree) (path : String) : Except DirectoryError FileTree :=
  match t.makeDirectory path with
  | .ok made => .ok made
  | .error e => if t.isDirectory path then .ok t else .error e

/-- Makes a directory unless it exists, and yields what has become of the tree. -/
def provideDirectory (t : FileTree) (path : String) : Except DirectoryError Unit × FileTree :=
  match t.ensureDirectory path with
  | .ok made => (.ok (), made)
  | .error e => (.error e, t)

/-- Makes a directory and at most so many of those above it.  Those that could be made stay, even if
another could not. -/
def makeDirectoriesUpTo : Nat → FileTree → String → Except DirectoryError Unit × FileTree
  | 0, t, path => t.provideDirectory path
  | levels + 1, t, path =>
    let (head, tail) :=
      match splitPath path with
      | (head, "") => splitPath head
      | split => split
    if head.isEmpty || tail.isEmpty || t.contains head then t.provideDirectory path
    else
      match makeDirectoriesUpTo levels t head with
      | (.ok (), made) | (.error (.taken _), made) =>
        if tail == "." then (.ok (), made) else made.provideDirectory path
      | failed => failed

/-- Makes a directory, and those above it that are missing. -/
def makeDirectories (t : FileTree) (path : String) : Except DirectoryError Unit × FileTree :=
  makeDirectoriesUpTo path.length t path

/-- The directories below the working directory, by their path from there, in order. -/
def directories (t : FileTree) : List String :=
  let below := t.nodes.filterMap fun (path, node) =>
    if node = .directory && t.working.isPrefixOf path && path != t.working then
      some (String.intercalate "/" (path.drop t.working.length))
    else none
  below.mergeSort fun a b => decide (a ≤ b)

end FileTree
end RecordRules
