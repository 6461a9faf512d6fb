import RecordRules.Settings.Validate
import RecordRules.Store.Address
import RecordRules.Store.Database

/-!
# Sites

A site is where the program runs: the variables of its environment, its files, and the databases
that lie in some of them.

`Site.openDatabase` opens the database at a location, and `Site.keepDatabase` keeps what has become
of it.
-/

set_option autoImplicit false

namespace RecordRules

/-- Where the program runs. -/
structure Site where
  environment : Environment := []
  files : FileTree := {}
  /-- The databases in files, by the path of the file from the root. -/
  databases : List (List String × Database) := []
  /-- What the clock on the wall shows. -/
  now : Moment := .ofClock {}
deriving Inhabited

namespace Site

/-- A database without tables. -/
def newDatabase : Database := { tables := none }

/-- The path from the root, without asking what exists on it. -/
def fullPath (site : Site) (path : String) : List String :=
  (FileTree.parts path).foldl
    (fun here part =>
      if part.isEmpty || part == "." then here
      else if part == ".." then here.dropLast
      else here ++ [part])
    (site.files.start path)

/-- The database at a path from the root.  A file that is missing or empty becomes a new one, unless
it has to be there. -/
def databaseAt (site : Site) (mustExist : Bool) (path : List String) : Result Database :=
  let unable : Result Database := .error (Location.unopened "unable to open database file")
  match site.databases.find? fun (known, _) => known == path with
  | some (_, db) => .ok db
  | none =>
    match site.files.node? path with
    | some .directory => unable
    | some (.file content) =>
      if content.isEmpty then .ok newDatabase
      else .error (.ofMishap .databaseFile "(sqlite3.DatabaseError) file is not a database")
    | none =>
      if !mustExist && site.files.node? path.dropLast = some .directory &&
          path.all fun part => part.utf8ByteSize ≤ FileTree.longestName then .ok newDatabase
      else unable

/-- Opens the database at a location. -/
def openDatabase (site : Site) : Location → Result Database
  | .memory => .ok newDatabase
  | .file path mustExist =>
    if isUsablePath path then site.databaseAt mustExist (site.fullPath path)
    else .error (.ofMishap .value DirectoryError.unusable.message)

/-- Keeps a database at its location; one in memory is lost. -/
def keepDatabase (site : Site) (db : Database) : Location → Site
  | .memory => site
  | .file path _ =>
    let full := site.fullPath path
    let others := site.databases.filter fun (known, _) => known != full
    { site with databases := others ++ [(full, db)] }

end Site
end RecordRules
