import RecordRules.Failure

/-!
# Faults as they are asked for

`Fault.ofArguments` makes a fault of a kind from named arguments: the facts that the kind reports,
and options that override what it leaves open.

A kind settles some of the options itself (`Kind.settled`); they cannot be given again.  What is
neither a fact nor an option cannot be given at all.  The values are not checked, but a fact has to
be such that its kind can report it, and facts can only be added to maps.
-/

set_option autoImplicit false

namespace RecordRules
namespace Fault

/-- The options of all faults. -/
def optionNames : List String :=
  ["error_code", "severity", "category", "details", "recoverable", "context"]

/-- The options that a kind settles itself. -/
def Kind.settled : Kind → List String
  | .general => []
  | .invalidArgument | .invalidExpression | .missingParameter | .invalidTransition => ["category"]
  | .evaluation | .measureEvaluation => ["severity"]
  | .conflict | .storage => ["severity", "category", "recoverable"]
  | .notFound | .illegalState | .noWorkflow | .transitionValidation | .forbidden
  | .configuration | .validatorRegistry => ["severity", "category"]

/-- Whether a kind takes an argument of a name. -/
def Kind.takes (kind : Kind) (name : String) : Bool :=
  optionNames.contains name || (kind.facts.map Prod.fst).contains name

/-- What makes every fault, in messages about its arguments. -/
def maker : String := Kind.general.label ++ ".__init__()"

/-- What every list of arguments begins with: the fault and its message. -/
def leading : List String := ["self", "message"]

/-- The failure of giving an argument twice. -/
def givenTwice (call name : String) : Failure :=
  .ofMishap .type s!"{call} got multiple values for argument '{name}'"

/-- A name that is given already. -/
def takenTwice? (reserved names : List String) (call : String) : Option Failure :=
  (names.find? reserved.contains).map (givenTwice call)

/-- The failure of giving an argument that is not taken. -/
def notTaken (name : String) : Failure :=
  .ofMishap .type s!"{maker} got an unexpected keyword argument '{name}'"

/-- What is wrong with the names of arguments: one stands for the fault or its message, which have
been given, or it is settled, or it is not taken.  A fault of no particular kind finds all this out
in the order of the names. -/
def argumentProblem? (kind : Kind) (names : List String) : Option Failure :=
  if kind = .general then
    (names.find? fun name => leading.contains name || !kind.takes name).map fun name =>
      if leading.contains name then givenTwice maker name else notTaken name
  else
    takenTwice? leading names s!"{kind.label}.__init__()" <|>
    match names.find? kind.settled.contains with
    | some name =>
      some (.ofMishap .type
        s!"recordflow.core.exceptions.{maker} got multiple values for keyword argument '{name}'")
    | none => (names.find? fun name => !kind.takes name).map notTaken

/-- One of the named alternatives, if one is asked for. -/
def alternative? {α : Type} (all : List α) (label : α → String) (what : String) :
    Option Value → Result (Option α)
  | none => .ok none
  | some v =>
    match all.find? fun a => Value.same (.text (label a)) v with
    | some a => .ok (some a)
    | none => .error (.ofMishap .value s!"{v.written} is not a valid {what}")

/-- The value under a name, or an empty map if there is none or it is empty. -/
def collection (arguments : Fields Value) (name : String) : Value :=
  match arguments.get? name with
  | some v => if v.isPresent then v else .map []
  | none => .map []

/-- The entries of a map, none of anything else. -/
def entries : Value → Fields Value
  | .map entries => entries
  | _ => []

/-- Why a value cannot be reported by a rule. -/
def Reported.obstacle? (rule : Reported) (v : Value) : Option Failure :=
  match rule, v with
  | _, .null => none
  | .excerpt, .text _ | .excerpt, .list _ | .excerpt, .tuple _ => none
  | .excerpt, .map _ => some (.ofMishap .type "unhashable type: 'slice'")
  | .excerpt, v => some (.ofMishap .type s!"'{v.typePath}' object is not subscriptable")
  | .shown, v => if v.hasHugeInt then some ValueError.integerTextTooLong.toFailure else none
  | .detail, v => if v.isPresent && v.elements?.isNone then some (.noElements v) else none
  | _, _ => none

/-- Adding facts to a collection needs a map. -/
def updatable : Value → Result Unit
  | .map _ => .ok ()
  | v => .error (.noAttribute v "update")

/-- Whether a fact can be reported, given the context and the details it goes to. -/
def reportable (arguments : Fields Value) (context details : Value) (rule : String × Reported) :
    Result Unit :=
  match arguments.get? rule.1 with
  | none => .ok ()
  | some v =>
    match rule.2.obstacle? v with
    | some problem => .error problem
    | none =>
      if (rule.2.apply v).isNone then .ok ()
      else updatable (if rule.2 = .detail then details else context)

/-- Whether facts can be added by a call. -/
def addable (call : String) (facts : Fields Value) (collection : Value) : Result Unit :=
  match takenTwice? ["self"] facts.names s!"{Kind.general.label}.{call}()" with
  | some problem => .error problem
  | none => updatable collection

/-- Makes a fault of a kind from arguments, and adds to its context and its details. -/
def ofArguments (kind : Kind) (message : String)
    (arguments addedContext addedDetails : Fields Value) : Result Fault := do
  let severity ← alternative? Severity.all Severity.label "ErrorSeverity"
    (arguments.get? "severity")
  let category ← alternative? Category.all Category.label "ErrorCategory"
    (arguments.get? "category")
  match argumentProblem? kind arguments.names with
  | some problem => throw problem
  | none =>
    let context := collection arguments "context"
    let details := collection arguments "details"
    kind.facts.forM (reportable arguments context details)
    addable "add_context" addedContext context
    addable "add_details" addedDetails details
    let fault := build kind message arguments
      { code := (arguments.get? "error_code").getD .null
        severity, category
        recoverable := arguments.get? "recoverable"
        details := entries details
        context := entries context }
    return (fault.addContext addedContext).addDetails addedDetails

end Fault
end RecordRules
