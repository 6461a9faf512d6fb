import RecordRules.Validator.Registry

/-!
# Operations of a registry

An `Operation` is anything that can be asked of a registry by name.  `Operation.run` gives its reply
and the registry afterwards, and `Registry.after` the registry that many of them leave behind.
-/

set_option autoImplicit false

namespace RecordRules
namespace Registry

/-- What can be asked of a registry. -/
inductive Operation (exits : Prop) where
  | register (name : String) (what : Attribute exits) (description : Value)
  | get (name : String)
  | call (name : String) (value : Value) (context : Fields Value)
  | contains (name : String)
  | unregister (name : String)

/-- What a registry replies when it does not fail. -/
inductive Reply (exits : Prop) where
  | done
  | found (validator : Validator exits)
  | answered (value : Value)
  | truth (holds : Bool)

variable {exits : Prop}

/-- The reply to an operation, and the registry afterwards. -/
def Operation.run (catalog : Catalog exits) (r : Registry exits) :
    Operation exits → Outcome exits (Reply exits) × Registry exits
  | .register name what description =>
    let (done, r') := r.register name what description
    (done.map fun _ => .done, r')
  | .get name =>
    match r.get catalog name with
    | .ok (v, r') => (.ok (.found v), r')
    | .error e => (.error e, r)
  | .call name value context =>
    let (answer, r') := r.call catalog name value context
    (answer.map .answered, r')
  | .contains name => (.ok (.truth (r.contains name)), r)
  | .unregister name =>
    match r.unregister name with
    | .ok (there, r') => (.ok (.truth there), r')
    | .error e => (.error e, r)

/-- The registry after operations, one after the other. -/
def after (catalog : Catalog exits) (r : Registry exits) (operations : List (Operation exits)) :
    Registry exits :=
  operations.foldl (fun r op => (op.run catalog r).2) r

end Registry
end RecordRules
