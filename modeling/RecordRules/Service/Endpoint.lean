import RecordRules.Service.Request
import RecordRules.Service.Response
import RecordRules.System.Operation

/-!
# Endpoints

An endpoint is a path with a method.  What it is asked to do is a `Task` on the system; the endpoint
says what the task needs (`parts`, `Endpoint.task`) and how its result is shown (`Endpoint.shown`).
-/

set_option autoImplicit false

namespace RecordRules

/-- What can be requested. -/
inductive Endpoint where
  | greeting
  | health
  | validateRecord (entityId : String)
  | validateField (entityId : String)
  | calculate (entityId : String)
  | evaluateMeasure (identifier : String)
  | evaluateMeasures
  | available (entityId recordId : String)
  | move (entityId recordId transitionId : String)
  | auditLog (entityId recordId : String)
deriving DecidableEq, Repr, Inhabited

/-- What a request asks of the system. -/
inductive Task where
  /-- Nothing, the service answers itself. -/
  | none
  | operation (operation : Operation)
  | move (move : Workflow.Move)
deriving Inhabited

namespace Endpoint

/-! ## Paths -/

/-- The endpoint at the steps of a path below that of the interface. -/
def below : List String → Option Endpoint
  | ["health"] => some .health
  | ["entities", e, "validate"] => some (.validateRecord e)
  | ["entities", e, "validate-field"] => some (.validateField e)
  | ["entities", e, "calculate"] => some (.calculate e)
  | ["entities", e, "records", r, "transitions"] => some (.available e r)
  | ["entities", e, "records", r, "transitions", t] => some (.move e r t)
  | ["entities", e, "records", r, "audit-log"] => some (.auditLog e r)
  | ["measures", m, "evaluate"] => some (.evaluateMeasure m)
  | ["measures", "evaluate-batch"] => some .evaluateMeasures
  | _ => none

/-- The endpoint at a path whose steps are not empty. -/
def at? : List String → Option Endpoint
  | [""] => some .greeting
  | "api" :: "v1" :: steps => if steps.any String.isEmpty then none else below steps
  | _ => none

/-- A path without a line break at its end. -/
def unbroken (path : List String) : List String :=
  match path.reverse with
  | last :: before =>
    match last.toList.reverse with
    | '\n' :: cs => (String.ofList cs.reverse :: before).reverse
    | _ => path
  | [] => []

/-- The endpoint that a path leads to.  A line break behind a fixed last step does no harm. -/
def reached? (path : List String) : Option Endpoint := at? path <|> at? (unbroken path)

/-- A path without the slashes at its end. -/
def trimmed (path : List String) : List String :=
  (path.reverse.dropWhile String.isEmpty).reverse

/-- The endpoint at a path; slashes at its end are dropped if need be. -/
def find? (path : List String) : Option Endpoint := reached? path <|> reached? (trimmed path)

/-- The paths of all endpoints, with names in place of what is variable. -/
def paths : List String :=
  ["/api/v1/entities/\x7bentity_id\x7d/validate",
   "/api/v1/entities/\x7bentity_id\x7d/validate-field",
   "/api/v1/entities/\x7bentity_id\x7d/calculate",
   "/api/v1/measures/\x7bidentifier\x7d/evaluate",
   "/api/v1/measures/evaluate-batch",
   "/api/v1/entities/\x7bentity_id\x7d/records/\x7brecord_id\x7d/transitions",
   "/api/v1/entities/\x7bentity_id\x7d/records/\x7brecord_id\x7d/transitions/\x7btransition_id\x7d",
   "/api/v1/entities/\x7bentity_id\x7d/records/\x7brecord_id\x7d/audit-log",
   "/api/v1/health",
   "/"]

/-- The method of an endpoint. -/
def method : Endpoint → String
  | .greeting | .health | .available .. | .auditLog .. => "GET"
  | _ => "POST"

/-! ## Requests -/

/-- Whether an endpoint reads the body of a request. -/
def readsBody (e : Endpoint) : Bool := e.method == "POST"

/-- The parts of the service that an endpoint needs, in the order in which they are missed. -/
def parts : Endpoint → List Service.Part
  | .greeting | .health => []
  | .validateRecord _ | .validateField _ => [.validationEngine]
  | .calculate _ => [.metadataStore, .interpreter]
  | .evaluateMeasure _ | .evaluateMeasures => [.measureEvaluator]
  | .available .. | .move .. | .auditLog .. => [.workflowEngine]

/-- The version that a request asks for, if it does. -/
def version (r : Request) : Checked (Option Int) :=
  match r.queried "version" with
  | some text =>
    ((Shape.integer (.text text)).map some).under (.field "version") |>.under (.field "query")
  | none => Checked.valid none

/-- The task that a request to an endpoint sets, with the data that it brings. -/
def task (r : Request) (data : Value) : Endpoint → Checked Task
  | .greeting | .health => Checked.valid .none
  | .validateRecord entityId =>
    Shape.body (fun fields =>
      (fun data event previous =>
        .operation (.validateRecord entityId data (some event) previous)) <$>
        Shape.defaulted fields "data" [] Shape.map
        <*> Shape.defaulted fields "trigger_event" "CREATE" Shape.text
        <*> Shape.optional fields "previous_data" Shape.map) data
  | .validateField entityId =>
    Shape.body (fun fields =>
      (fun name value data => .operation (.validateField entityId name value data)) <$>
        Shape.required fields "property_name" Shape.text
        <*> Shape.defaulted fields "value" .null Shape.any
        <*> Shape.defaulted fields "data" [] Shape.map) data
  | .calculate entityId =>
    Shape.body (fun fields =>
      (fun data parent => .operation (.calculate entityId data parent)) <$>
        Shape.defaulted fields "data" [] Shape.map
        <*> Shape.optional fields "parent_data" Shape.map) data
  | .evaluateMeasure identifier =>
    (fun version parameters =>
      .operation (.measure { identifier, version, parameters := parameters.getD [] } none)) <$>
      version r
      <*> Shape.body? (fun fields => Shape.defaulted fields "parameters" [] Shape.map) data
  | .evaluateMeasures =>
    Shape.body (fun fields =>
      (fun requests => .operation (.measures requests none)) <$>
        Shape.required fields "requests" (Shape.items (Shape.asked MeasureRequest.check))) data
  | .available entityId recordId => Checked.valid (.operation (.available entityId recordId))
  | .move entityId recordId transitionId =>
    (fun (comments : Option (Option String)) =>
      .move { entityId, recordId, transitionId, comments := comments.join
              actor := r.header? "X-Actor-Id" }) <$>
      Shape.body? (fun fields => Shape.optional fields "comments" Shape.text) data
  | .auditLog entityId recordId => Checked.valid (.operation (.auditLog entityId recordId))

/-! ## Answers -/

/-- How a service is. -/
def healthReport (service : Service) : Value :=
  let reported : List Service.Part :=
    [.metadataStore, .validationEngine, .measureEvaluator, .workflowEngine]
  let degraded := reported.any service.isMissing
  .map [("status", .text (if degraded then "degraded" else "healthy")),
    ("components", .map (reported.map fun p => (p.label, .bool (!service.isMissing p))))]

/-- The result of its task as an endpoint shows it. -/
def shown (service : Service) (result : Value) : Endpoint → Value
  | .greeting =>
    .map [("message", .text (service.settings.appName ++ " is running")),
      ("version", .text service.settings.appVersion)]
  | .health => healthReport service
  | .validateRecord _ | .validateField _ =>
    let clean := match result with
      | .list issues => issues.isEmpty
      | _ => true
    .map [("valid", .bool clean), ("errors", result)]
  | .calculate entityId => .map [("entity_id", .text entityId), ("data", result)]
  | _ => result

/-- How many levels of what an endpoint shows are always the same: the data of a record and the
result of a measure can be anything. -/
def knownLevels : Endpoint → Nat
  | .evaluateMeasure _ => 1
  | _ => 2

end Endpoint

namespace Answer

/-- The result in an answer. -/
def outcome : Answer → Result Value
  | .result r => r
  | .measured r _ => r
  | .cache _ => .ok .null
  | .asked found _ => .ok (found.getD .null)

end Answer

namespace Task

/-- The result of a task, and the system afterwards. -/
def run (s : System) : Task → Result Value × System
  | .none => (.ok .null, s)
  | .operation o =>
    let (answer, after) := o.run s
    (answer.outcome, after)
  | .move m =>
    let (result, _, after) := Workflow.execute s m fun s => ((), s)
    (result.map fun moved => .map moved.toFields, after)

end Task
end RecordRules
