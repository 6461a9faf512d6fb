import RecordRules.Failure
import RecordRules.Text.Quoted
import RecordRules.Text.Split

/-!
# Modules of validators

Validators can live in modules and be found there by a dotted path.  A `Catalog` says what comes of
loading each module, and what the module holds; a module below another one is looked for only in a
package.

* Modules and validators are foreign code, and can raise anything: see `Raised`.
* `Catalog.load` finds the module of a name.  A name with an empty segment has no module either, but
  fails in its own ways: see `LoadError`.
* `Catalog.find` finds what a module holds under a name.
-/

set_option autoImplicit false

namespace RecordRules

/-- What foreign code raises.  Beside errors there are exits and interruptions, which are meant to
stop more than the code that they are raised in; `exits` says whether it comes to these at all. -/
inductive Raised (exits : Prop) where
  /-- A fault of the library. -/
  | fault (fault : Fault)
  /-- Any other error. -/
  | error (mishap : Mishap)
  | exit (possible : exits) (mishap : Mishap)
deriving Inhabited

namespace Raised

variable {exits : Prop}

/-- The failure of whoever does not handle what is raised. -/
def failure : Raised exits → Failure
  | .fault f => .fault f
  | .error m | .exit _ m => .mishap m

/-- The wording of what is raised. -/
def message (raised : Raised exits) : String := raised.failure.message

/-- Whether a module has not been found, or says so of another one. -/
def isImportError : Raised exits → Bool
  | .error m => m.kind == .importing || m.kind == .notInstalled
  | _ => false

/-- Whether something has no attribute of a name. -/
def isAttributeError : Raised exits → Bool
  | .error m => m.kind == .attribute
  | _ => false

end Raised

/-- How a validator is known outside the registry. -/
inductive Validator.Title where
  /-- A function has a name. -/
  | function (name : String)
  /-- Other objects that can be called only have the name of their type; they lack an attribute that
  functions have. -/
  | object (type : String) (lacks : String := "__name__")
deriving DecidableEq, Repr

/-- A check of a value in a context. -/
structure Validator (exits : Prop) where
  title : Validator.Title
  run : Value → Fields Value → Except (Raised exits) Value
  /-- Why its parameters cannot be told, if they cannot. -/
  obscure : Option String := none

instance {exits : Prop} : Inhabited (Validator exits) :=
  ⟨{ title := .function "", run := fun _ _ => .ok .null }⟩

/-- Something that a module holds under a name. -/
inductive Attribute (exits : Prop) where
  | validator (validator : Validator exits)
  /-- Anything that cannot be called. -/
  | constant (value : Value)
deriving Inhabited

/-- What a module holds; asking for it can raise something, too. -/
abbrev Module (exits : Prop) := Fields (Except (Raised exits) (Attribute exits))

/-- What comes of loading the modules that exist: a module, or what its code raises. -/
structure Catalog (exits : Prop) where
  modules : Fields (Except (Raised exits) (Module exits)) := []
  packages : List String := []
deriving Inhabited

/-- Why nothing can be loaded. -/
inductive LoadError (exits : Prop) where
  /-- The name of the module is empty. -/
  | emptyName
  /-- The name starts with a dot, which only makes sense within a package. -/
  | relativeName (name : String)
  /-- There is no module of the name. -/
  | noModule (name : String)
  /-- There is no module of the name, since the module above is no package. -/
  | noPackage (name parent : String)
  /-- The module holds nothing of the name. -/
  | noAttribute (module name : String)
  /-- The code of the module raises something. -/
  | raised (raised : Raised exits)

/-- What a load raises when it fails. -/
def LoadError.cause {exits : Prop} : LoadError exits → Raised exits
  | .emptyName => .error ⟨.value, "Empty module name"⟩
  | .relativeName name =>
    .error ⟨.type, "the 'package' argument is required to perform a relative import for " ++
      Text.quoted name⟩
  | .noModule name => .error ⟨.notInstalled, "No module named " ++ Text.quoted name⟩
  | .noPackage name parent =>
    .error ⟨.notInstalled, "No module named " ++ Text.quoted name ++ "; " ++ Text.quoted parent ++
      " is not a package"⟩
  | .noAttribute module name =>
    .error ⟨.attribute, "module " ++ Text.quoted module ++ " has no attribute " ++ Text.quoted name⟩
  | .raised r => r

namespace Catalog

variable {exits : Prop}

/-- Loads the module of a name whose modules above are `parents`, the nearest first. -/
def loadBelow (catalog : Catalog exits) (name : String) :
    List String → Except (LoadError exits) (Module exits)
  | [] =>
    match catalog.modules.get? name with
    | some loaded => loaded.mapError .raised
    | none => .error (.noModule name)
  | parent :: above =>
    match catalog.modules.get? name with
    | some loaded => loaded.mapError .raised
    | none =>
      match loadBelow catalog parent above with
      | .error e => .error e
      | .ok _ =>
        if catalog.packages.contains parent then .error (.noModule name)
        else .error (.noPackage name parent)

/-- The names of the modules above, of names that have as many segments as given. -/
def parentsOf : Nat → String → List String
  | 0, _ => []
  | segments + 1, name =>
    match Text.cutLast? ['.'] name.toList with
    | some (parent, _) =>
      if parent.isEmpty then [] else
        String.ofList parent :: parentsOf segments (String.ofList parent)
    | none => []

/-- Loads the module of a name. -/
def load (catalog : Catalog exits) (name : String) : Except (LoadError exits) (Module exits) :=
  if name.isEmpty then .error .emptyName
  else if name.toList.head? = some '.' then .error (.relativeName name)
  else loadBelow catalog name (parentsOf name.length name)

/-- What a module holds under a name. -/
def find (catalog : Catalog exits) (module name : String) :
    Except (LoadError exits) (Attribute exits) := do
  let held ← catalog.load module
  match held.get? name with
  | some found => found.mapError .raised
  | none => .error (.noAttribute module name)

end Catalog
end RecordRules
