import RecordRules.Validator.Catalog

/-!
# The registry of validators

The registry keeps validators and their descriptions under names.  A name that is not registered
but has a dot in it is looked up in the modules of a `Catalog`, and registered when it is found
there.  Blanks around a name do not count.

A registration enters the validator, then its description, and is reported then.  It can fail in
between, and what it has entered stays.
-/

set_option autoImplicit false

namespace RecordRules

/-- The registered validators, and a description for each. -/
structure Registry (exits : Prop) where
  validators : Fields (Validator exits) := []
  descriptions : Fields String := []
deriving Inhabited

/-- Why the registry refuses or fails. -/
inductive RegistryError (exits : Prop) where
  | emptyName
  | notAFunction (name : String)
  | uninspectable (name cause : String)
  | alreadyRegistered (name : String)
  /-- A description is no text. -/
  | wordless (typePath : String)
  /-- A validator has no name that could be reported. -/
  | nameless (type lacks : String)
  | notRegistered (name : String)
  | cannotLoad (name : String) (error : LoadError exits)
  | notCallable (name : String)
  | executionFailed (name message : String)
  /-- A validator has left instead of failing. -/
  | exited (possible : exits) (mishap : Mishap)

namespace RegistryError

variable {exits : Prop}

/-- The fault of a registry, about a name if there is one. -/
def fault (message : String) (name : Option String) : Failure :=
  .fault (Fault.of .validatorRegistry message [("validator_name", .ofText? name)])

/-- The failure of a load for a name.  Only what is raised for want of a module or an attribute is
reported as a fault of the registry. -/
def loadFailure (name : String) (raised : Raised exits) : Failure :=
  if raised.isImportError then
    fault (s!"Cannot import module for validator '{name}': " ++ raised.message) (some name)
  else if raised.isAttributeError then
    fault (s!"Function not found in module for validator '{name}': " ++ raised.message) (some name)
  else raised.failure

/-- The failure that reports an error. -/
def toFailure : RegistryError exits → Failure
  | .emptyName => fault "Validator name cannot be empty" none
  | .notAFunction name => fault s!"Validator '{name}' must be a callable function" (some name)
  | .uninspectable name cause =>
    fault s!"Cannot inspect function signature for validator '{name}': {cause}" (some name)
  | .alreadyRegistered name => fault s!"Validator '{name}' is already registered" (some name)
  | .wordless typePath => .ofMishap .attribute s!"'{typePath}' object has no attribute 'strip'"
  | .nameless type lacks => .ofMishap .attribute s!"'{type}' object has no attribute '{lacks}'"
  | .notRegistered name => fault s!"Validator '{name}' is not registered" (some name)
  | .cannotLoad name e => loadFailure name e.cause
  | .notCallable name => fault s!"Validator '{name}' is not callable" (some name)
  | .executionFailed name message =>
    fault s!"Failed to execute validator '{name}': {message}" (some name)
  | .exited _ mishap => .mishap mishap

end RegistryError

namespace Registry

variable {exits : Prop}

/-- What an operation of the registry yields. -/
abbrev Outcome (exits : Prop) (α : Type) := Except (RegistryError exits) α

/-- A name without blanks around it, unless nothing is left. -/
def checkedName (name : String) : Outcome exits String :=
  let plain := Text.trimmed name
  if plain.isEmpty then .error .emptyName else .ok plain

/-! ## Registering -/

/-- The name and the validator that a registration is to enter, if nothing speaks against it. -/
def accept (r : Registry exits) (name : String) (what : Attribute exits) :
    Outcome exits (String × Validator exits) := do
  let plain ← checkedName name
  match what with
  | .constant _ => .error (.notAFunction plain)
  | .validator v =>
    match v.obscure with
    | some cause => .error (.uninspectable plain cause)
    | none =>
      if r.validators.has plain then .error (.alreadyRegistered plain) else return (plain, v)

/-- The text of a description; nothing at all is an empty one. -/
def descriptionText : Value → Outcome exits String
  | .text s => .ok (Text.trimmed s)
  | v => if v.isPresent then .error (.wordless v.typePath) else .ok ""

/-- The report of a registration, for which the validator needs a name. -/
def report (v : Validator exits) : Outcome exits Unit :=
  match v.title with
  | .function _ => .ok ()
  | .object type lacks => .error (.nameless type lacks)

/-- Registers something under a name.  The registry afterwards has what was entered before the
registration failed. -/
def register (r : Registry exits) (name : String) (what : Attribute exits) (description : Value) :
    Outcome exits Unit × Registry exits :=
  match r.accept name what with
  | .error e => (.error e, r)
  | .ok (plain, v) =>
    let entered := { r with validators := r.validators.set plain v }
    match descriptionText description with
    | .error e => (.error e, entered)
    | .ok text => (report v, { entered with descriptions := r.descriptions.set plain text })

/-! ## Looking up -/

/-- The attribute that a dotted path leads to. -/
def loadAttribute (catalog : Catalog exits) (name : String) : Outcome exits (Attribute exits) :=
  match Text.cutLast? ['.'] name.toList with
  | none => .error (.notRegistered name)
  | some (modulePath, item) =>
    (catalog.find (String.ofList modulePath) (String.ofList item)).mapError (.cannotLoad name)

/-- Keeps a validator that was found by its path. -/
def keep (r : Registry exits) (name : String) (v : Validator exits) : Registry exits :=
  { validators := r.validators.set name v
    descriptions := if r.descriptions.has name then r.descriptions
      else r.descriptions.set name "" }

/-- The validator of a name, and the registry that knows it afterwards. -/
def get (r : Registry exits) (catalog : Catalog exits) (name : String) :
    Outcome exits (Validator exits × Registry exits) := do
  let plain ← checkedName name
  match r.validators.get? plain with
  | some v => return (v, r)
  | none =>
    match ← loadAttribute catalog plain with
    | .validator v => return (v, r.keep plain v)
    | .constant _ => .error (.notCallable plain)

/-- Whether a validator is registered under a name. -/
def contains (r : Registry exits) (name : String) : Bool :=
  match (checkedName name : Outcome exits String) with
  | .ok plain => r.validators.has plain
  | .error _ => false

/-- The registered names with their descriptions. -/
def list (r : Registry exits) : Fields String := r.descriptions

/-- Removes a name, and says whether it was there. -/
def unregister (r : Registry exits) (name : String) : Outcome exits (Bool × Registry exits) := do
  let plain ← checkedName name
  if r.validators.has plain then
    return (true, { validators := r.validators.erase plain
                    descriptions := r.descriptions.erase plain })
  else return (false, r)

/-! ## Calling -/

/-- The error of a call whose validator raises something.  An exit is none of the registry's. -/
def callError (name : String) : Raised exits → RegistryError exits
  | .exit possible mishap => .exited possible mishap
  | raised => .executionFailed name raised.message

/-- Calls the validator of a name.  The registry afterwards knows a validator that was found by
its path, whatever it answers. -/
def call (r : Registry exits) (catalog : Catalog exits) (name : String) (value : Value)
    (context : Fields Value) : Outcome exits Value × Registry exits :=
  match r.get catalog name with
  | .error e => (.error e, r)
  | .ok (v, known) => ((v.run value context).mapError (callError name), known)

end Registry
end RecordRules
