import RecordRules.Value.Written

/-!
# Faults

A fault is the failure of an operation as its caller sees it: a kind, a message, and facts about
what was being done.

* `Kind` is the taxonomy.  It fixes the category of a fault, how severe it is and whether a retry
  can help.
* `facts` says for each kind which facts it reports, and when.
* `Fault.of` makes a fault of a kind; `Fault.build` also overrides what the kind leaves open.
-/

set_option autoImplicit false

namespace RecordRules

/-- How bad a fault is. -/
inductive Severity where
  | low
  | medium
  | high
  | critical
deriving DecidableEq, Repr, Inhabited

/-- The name of a severity in reports. -/
def Severity.label : Severity → String
  | .low => "low"
  | .medium => "medium"
  | .high => "high"
  | .critical => "critical"

/-- The severities, in ascending order. -/
def Severity.all : List Severity := [.low, .medium, .high, .critical]

/-- What a fault is about. -/
inductive Category where
  | notFound
  | invalidArgument
  | illegalState
  | forbidden
  | evaluation
  | conflict
  | storage
  | configuration
deriving DecidableEq, Repr, Inhabited

/-- The name of a category in reports. -/
def Category.label : Category → String
  | .notFound => "not_found"
  | .invalidArgument => "invalid_argument"
  | .illegalState => "illegal_state"
  | .forbidden => "forbidden"
  | .evaluation => "evaluation"
  | .conflict => "conflict"
  | .storage => "storage"
  | .configuration => "configuration"

/-- The categories. -/
def Category.all : List Category :=
  [.notFound, .invalidArgument, .illegalState, .forbidden, .evaluation, .conflict, .storage,
    .configuration]

namespace Fault

/-- The kinds of faults. -/
inductive Kind where
  /-- A fault of no particular kind. -/
  | general
  /-- An entity, record, rule, measure, workflow or transition is missing. -/
  | notFound
  /-- The caller supplied an unusable argument. -/
  | invalidArgument
  /-- An expression is empty or exceeds its limits. -/
  | invalidExpression
  /-- A measure parameter has neither a supplied value nor a default. -/
  | missingParameter
  /-- A transition does not belong to the workflow of the entity. -/
  | invalidTransition
  /-- The operation is not legal in the current state of the record. -/
  | illegalState
  /-- The entity has no workflow. -/
  | noWorkflow
  /-- A condition or rule of a transition is not met. -/
  | transitionValidation
  /-- The actor has none of the roles a transition asks for. -/
  | forbidden
  /-- An expression failed while it was evaluated. -/
  | evaluation
  /-- The expression of a measure failed. -/
  | measureEvaluation
  /-- Another writer changed the record first. -/
  | conflict
  /-- The store failed. -/
  | storage
  /-- The configuration is missing or wrong. -/
  | configuration
  /-- A validator cannot be found, loaded or executed. -/
  | validatorRegistry
deriving DecidableEq, Repr, Inhabited

/-- The kinds of faults. -/
def Kind.all : List Kind :=
  [.general, .notFound, .invalidArgument, .invalidExpression, .missingParameter,
    .invalidTransition, .illegalState, .noWorkflow, .transitionValidation, .forbidden, .evaluation,
    .measureEvaluation, .conflict, .storage, .configuration, .validatorRegistry]

/-- The name of a kind, which is also the code of its faults unless they have one of their own. -/
def Kind.label : Kind → String
  | .general => "RecordflowError"
  | .notFound => "NotFoundError"
  | .invalidArgument => "InvalidArgumentError"
  | .invalidExpression => "InvalidExpressionError"
  | .missingParameter => "MissingParameterError"
  | .invalidTransition => "InvalidTransitionError"
  | .illegalState => "IllegalStateError"
  | .noWorkflow => "NoWorkflowError"
  | .transitionValidation => "TransitionValidationError"
  | .forbidden => "ForbiddenError"
  | .evaluation => "EvaluationError"
  | .measureEvaluation => "MeasureEvaluationError"
  | .conflict => "ConflictError"
  | .storage => "StorageError"
  | .configuration => "ConfigurationError"
  | .validatorRegistry => "ValidatorRegistryError"

/-- What the faults of a kind are about. -/
def Kind.category : Kind → Category
  | .general | .invalidArgument | .invalidExpression | .missingParameter | .invalidTransition =>
    .invalidArgument
  | .notFound => .notFound
  | .illegalState | .noWorkflow | .transitionValidation => .illegalState
  | .forbidden => .forbidden
  | .evaluation | .measureEvaluation => .evaluation
  | .conflict => .conflict
  | .storage => .storage
  | .configuration | .validatorRegistry => .configuration

/-- How bad the faults of a kind are. -/
def Kind.severity : Kind → Severity
  | .notFound | .invalidArgument | .invalidExpression | .missingParameter | .invalidTransition =>
    .low
  | .general | .illegalState | .noWorkflow | .transitionValidation | .forbidden | .evaluation
  | .measureEvaluation | .conflict | .validatorRegistry => .medium
  | .storage | .configuration => .high

/-- Whether a retry can help. -/
def Kind.recoverable : Kind → Bool
  | .conflict | .storage => true
  | _ => false

/-- The status with which a kind of fault answers a request. -/
def Kind.status : Kind → Nat
  | .notFound => 404
  | .invalidArgument | .invalidExpression | .missingParameter | .invalidTransition => 400
  | .forbidden => 403
  | .transitionValidation => 422
  | .illegalState | .noWorkflow | .conflict => 409
  | .evaluation | .measureEvaluation => 422
  | .general | .storage | .configuration | .validatorRegistry => 500

/-! ## Facts -/

/-- When a fact is reported, and how. -/
inductive Reported where
  /-- Unless it is null. -/
  | given
  /-- Unless it is null, and then as a text. -/
  | shown
  /-- Unless it is null or empty. -/
  | nonEmpty
  /-- Unless it is null, and then only the first characters or items of it. -/
  | excerpt
  /-- Among the details rather than the context and as a list, unless it is null or empty. -/
  | detail
deriving DecidableEq, Repr, Inhabited

/-- The facts that the faults of a kind report. -/
def Kind.facts : Kind → List (String × Reported)
  | .general | .invalidArgument => []
  | .notFound => [("resource_type", .nonEmpty), ("resource_id", .shown)]
  | .invalidExpression => [("expression", .excerpt)]
  | .missingParameter =>
    [("measure_identifier", .nonEmpty), ("version", .given), ("parameter_name", .nonEmpty)]
  | .invalidTransition => [("transition_id", .nonEmpty), ("workflow_id", .nonEmpty)]
  | .illegalState => [("current_state", .given), ("transition_id", .nonEmpty)]
  | .noWorkflow =>
    [("current_state", .given), ("transition_id", .nonEmpty), ("entity_id", .nonEmpty)]
  | .transitionValidation =>
    [("current_state", .given), ("transition_id", .nonEmpty), ("issues", .detail)]
  | .forbidden => [("actor", .nonEmpty), ("allowed_roles", .detail)]
  | .evaluation => [("expression", .excerpt)]
  | .measureEvaluation =>
    [("expression", .excerpt), ("measure_identifier", .nonEmpty), ("version", .given)]
  | .conflict => [("entity_id", .nonEmpty), ("record_id", .nonEmpty)]
  | .storage => [("operation", .nonEmpty), ("table", .nonEmpty)]
  | .configuration => [("config_key", .nonEmpty)]
  | .validatorRegistry => [("validator_name", .nonEmpty)]

/-- The value of a fact as it is reported, if it is. -/
def Reported.apply (rule : Reported) (value : Value) : Option Value :=
  match rule, value with
  | _, .null => none
  | .given, v => some v
  | .shown, v => some (.text v.shown)
  | .nonEmpty, v => if v.isPresent then some v else none
  | .excerpt, .text s => some (.text (String.ofList (s.toList.take 200)))
  | .excerpt, .list items => some (.list (items.take 200))
  | .excerpt, .tuple items => some (.tuple (items.take 200))
  | .excerpt, v => some v
  | .detail, v => if v.isPresent then some (.list (v.elements?.getD [])) else none

end Fault

/-- The failure of an operation as its caller sees it.  Its code is a text, and whether a retry can
help is a truth value, unless whoever asked for the fault wanted something else in their place. -/
structure Fault where
  kind : Fault.Kind
  message : String
  code : Value
  severity : Severity
  category : Category
  recoverable : Value
  details : Fields Value
  context : Fields Value
deriving Inhabited

namespace Fault

/-- What a caller may say about a fault beyond its kind. -/
structure Options where
  code : Value := .null
  severity : Option Severity := none
  category : Option Category := none
  recoverable : Option Value := none
  details : Fields Value := []
  context : Fields Value := []
deriving Inhabited

/-- Adds facts to the context. -/
def addContext (fault : Fault) (facts : Fields Value) : Fault :=
  { fault with context := fault.context.setAll facts }

/-- Adds facts to the details. -/
def addDetails (fault : Fault) (facts : Fields Value) : Fault :=
  { fault with details := fault.details.setAll facts }

/-- Reports a fact by the rule for it. -/
def report (facts : Fields Value) (fault : Fault) (rule : String × Reported) : Fault :=
  match (facts.get? rule.1).bind rule.2.apply with
  | none => fault
  | some value =>
    if rule.2 = .detail then fault.addDetails [(rule.1, value)]
    else fault.addContext [(rule.1, value)]

/-- Makes a fault of a kind with the facts given, and what the caller says beyond that. -/
def build (kind : Kind) (message : String) (facts : Fields Value) (options : Options) : Fault :=
  kind.facts.foldl (report facts)
    { kind, message
      code := if options.code.isPresent then options.code else .text kind.label
      severity := options.severity.getD kind.severity
      category := options.category.getD kind.category
      recoverable := options.recoverable.getD (.bool kind.recoverable)
      details := options.details
      context := options.context }

/-- Makes a fault of a kind with the facts given. -/
def of (kind : Kind) (message : String) (facts : Fields Value) : Fault :=
  build kind message facts {}

/-- The status with which a fault answers a request. -/
def status (fault : Fault) : Nat := fault.kind.status

/-! ## Reports -/

/-- A fault as a record of everything known about it, apart from when it happened. -/
def toFields (fault : Fault) : Fields Value :=
  [("error_code", fault.code),
   ("message", .text fault.message),
   ("severity", .text fault.severity.label),
   ("category", .text fault.category.label),
   ("details", .map fault.details),
   ("recoverable", fault.recoverable),
   ("context", .map fault.context),
   ("exception_type", .text fault.kind.label)]

/-- A fault as the body of a response, apart from when it happened. -/
def response (fault : Fault) : Fields Value :=
  [("error", fault.code),
   ("message", .text fault.message),
   ("details", .map (fault.details.setAll
      [("severity", .text fault.severity.label),
       ("category", .text fault.category.label),
       ("recoverable", fault.recoverable)])),
   ("context", .map fault.context)]

end Fault
end RecordRules
