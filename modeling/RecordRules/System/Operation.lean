import RecordRules.Calculation
import RecordRules.Sample
import RecordRules.Workflow.Execute

/-!
# Operations

An `Operation` is anything that can be asked of a system and is over before the next begins.
`Operation.run` gives its answer and the system afterwards.
-/

set_option autoImplicit false

namespace RecordRules

/-- What can be asked of a system. -/
inductive Operation where
  | saveEntity (entity : Entity)
  | saveRule (rule : Rule) (active : Bool)
  | saveMeasure (measure : Measure)
  | saveWorkflow (workflow : Workflow)
  | createRecord (record : NewRecord)
  | assignRole (actor role : String)
  | loadSample
  | getEntity (id : String)
  | getWorkflow (id : String)
  | getTransition (id : String)
  | getFieldRules (entityId propertyName : String)
  | getRulesByScope (entityId : String) (scope : Scope)
  | getMeasure (identifier : String) (version : Option Int)
  | getRecord (entityId recordId : String)
  | hasAnyRole (actor : Option String) (roles : List String)
  | validateRecord (entityId : String) (data : Fields Value) (event : Option String)
      (previous : Option (Fields Value))
  | validateField (entityId propertyName : String) (value : Value) (data : Fields Value)
  | validateTransition (entityId : String) (data : Fields Value) (transition : Transition)
      (actor : Option String) (previous : Option (Fields Value))
  | calculate (entityId : String) (data : Fields Value) (parent : Option (Fields Value))
  | available (entityId recordId : String)
  | auditLog (entityId recordId : String)
  | measure (request : MeasureRequest) (cache : Option String)
  | measures (requests : List MeasureRequest) (cache : Option String)
  | openCache (name : String)
  | clearCache (name : String)
  | askCache (name key : String)
  | keepInCache (name key : String) (value : Value)
  | isInCache (name key : String)
  | createTables
  | dropTables
  | migrate
  /-- An operation that fails before it reaches the system. -/
  | refused (failure : Failure)
deriving Inhabited

/-- What an operation answers. -/
inductive Answer where
  | result (result : Result Value)
  /-- The value of a measure, and its cache if it has one. -/
  | measured (result : Result Value) (cache : Option Cache)
  | cache (cache : Cache)
  /-- What a cache has under a key. -/
  | asked (found : Option Value) (cache : Cache)
deriving Inhabited

namespace Value

/-- An optional thing as a value. -/
def ofOption {α : Type} (toValue : α → Value) : Option α → Value
  | some a => toValue a
  | none => .null

/-- A list of things as a value. -/
def ofList {α : Type} (toValue : α → Value) (items : List α) : Value := .list (items.map toValue)

end Value

namespace System

/-- The cache of a name, which is a new one if the name is new. -/
def cache (s : System) (name : String) : Cache := (s.caches.get? name).getD {}

/-- Keeps a cache under its name. -/
def withCache (s : System) (name : String) (c : Cache) : System :=
  { s with caches := s.caches.set name c }

/-- Evaluates with the cache of a name, if one is given. -/
def withCache? (s : System) (name : Option String) (alone : Result Value)
    (cached : Cache → Result Value × Cache) : Answer × System :=
  match name with
  | none => (.measured alone none, s)
  | some name =>
    let (result, c) := cached (s.cache name)
    (.measured result (some c), s.withCache name c)

/-- The issues of a check, and the checker as it leaves it. -/
def checked (s : System) (r : Result (List Issue × Validation.Checker)) : Answer × System :=
  match r with
  | .ok (issues, checker) =>
    (.result (.ok (.ofList Issue.toValue issues)), { s with checker })
  | .error e => (.result (.error e), s)

/-- The record after a change, or why there is none. -/
def created (s : System) (r : Result (Record × Database)) : Answer × System :=
  match r with
  | .ok (record, db) => (.result (.ok (.map record.toFields)), s.withDatabase db)
  | .error e => (.result (.error e), s)

end System

namespace Operation

/-- Answers an operation that only changes the database. -/
def changes (s : System) (r : Result Database) : Answer × System :=
  let (done, after) := s.update r
  (.result (done.map fun _ => .null), after)

/-- Answers an operation that only reads. -/
def reads {α : Type} (s : System) (toValue : α → Value) (r : Result α) : Answer × System :=
  (.result (r.map toValue), s)

/-- A measure as it is shown. -/
def measureValue (m : Measure) : Value := .map m.toFields

/-- Computes the calculated fields of a record of an entity. -/
def calculated (s : System) (entityId : String) (data : Fields Value)
    (parent : Option (Fields Value)) : Result (Fields Value) := do
  let entity ← Validation.findEntity s.database entityId
  Calculation.calculate s.limits entity data parent

/-- What a system answers to an operation, and the system afterwards. -/
def run (s : System) : Operation → Answer × System
  | .saveEntity e => changes s (s.database.saveEntity e)
  | .saveRule r active => changes s (s.database.saveRule r active)
  | .saveMeasure m =>
    match s.database.saveMeasure m with
    | .ok db =>
      let given := (m.id.getD "").isEmpty
      (.result (.ok (if given then .bool true else .ofText? m.id)), s.withDatabase db)
    | .error e => (.result (.error e), s)
  | .saveWorkflow w => changes s (s.database.saveWorkflow w)
  | .createRecord n => s.created (s.database.createRecord s.now n)
  | .assignRole actor role => changes s (s.database.assignRole actor role)
  | .loadSample =>
    let (done, db) := Sample.load s.database s.now
    (.result (done.map fun _ => .null), s.withDatabase db)
  | .getEntity id => reads s (.ofOption fun e => .map (Entity.toFields e)) (s.database.getEntity id)
  | .getWorkflow id =>
    reads s (.ofOption fun w => .map (Workflow.toFields w)) (s.database.getWorkflow id)
  | .getTransition id =>
    reads s (.ofOption fun t => .map (Transition.toFields t)) (s.database.getTransition id)
  | .getFieldRules entityId propertyName =>
    reads s (.ofList fun r => .map (Rule.toFields r))
      (s.database.getFieldRules entityId propertyName)
  | .getRulesByScope entityId scope =>
    reads s (.ofList fun r => .map (Rule.toFields r)) (s.database.getRulesByScope entityId scope)
  | .getMeasure identifier version =>
    reads s (.ofOption measureValue) (match version with
      | some n => s.database.getMeasure identifier n
      | none => s.database.getLatestMeasure identifier)
  | .getRecord entityId recordId =>
    reads s (.ofOption fun r => .map (Record.toFields r)) (s.database.getRecord entityId recordId)
  | .hasAnyRole actor roles => reads s .bool (s.database.hasAnyRole actor roles)
  | .validateRecord entityId data event previous =>
    s.checked (Validation.recordIssues s.database s.checker entityId data event previous)
  | .validateField entityId propertyName value data =>
    s.checked (Validation.fieldIssues s.database s.checker entityId propertyName value data)
  | .validateTransition entityId data t actor previous =>
    reads s (.ofList Issue.toValue)
      (Validation.transitionIssues s.database s.limits entityId data t actor previous)
  | .calculate entityId data parent => reads s .map (calculated s entityId data parent)
  | .available entityId recordId =>
    reads s (.ofList fun t => .map (AvailableTransition.toFields t))
      (Workflow.available s.database entityId recordId)
  | .auditLog entityId recordId =>
    reads s (.ofList fun a => .map (AuditEntry.toFields a))
      (s.database.auditLog entityId recordId)
  | .measure request cache =>
    let shown (r : Result MeasureResult) : Result Value := r.map fun m => .map m.toFields
    s.withCache? cache (shown (evaluateMeasure s.database s.limits request)) fun c =>
      let (r, c) := evaluateMeasureWith s.database s.limits c request
      (shown r, c)
  | .measures requests cache =>
    let shown (r : Result (List MeasureResult)) : Result Value :=
      r.map (.ofList fun m => .map (MeasureResult.toFields m))
    s.withCache? cache (shown (evaluateMeasures s.database s.limits requests)) fun c =>
      let (r, c) := evaluateMeasuresWith s.database s.limits c requests
      (shown r, c)
  | .openCache name => (.result (.ok .null), s.withCache name {})
  | .clearCache name =>
    let c := (s.cache name).clear
    (.cache c, s.withCache name c)
  | .askCache name key =>
    let (found, c) := (s.cache name).lookup key
    (.asked found c, s.withCache name c)
  | .keepInCache name key value =>
    let c := (s.cache name).store key value
    (.cache c, s.withCache name c)
  | .isInCache name key => (.result (.ok (.bool ((s.cache name).contains key))), s)
  | .createTables => changes s s.database.createTables
  | .dropTables => changes s s.database.dropTables
  | .migrate =>
    match s.database.migrate with
    | .ok db => (.result (.ok (.ofList .text db.indexes)), s.withDatabase db)
    | .error e => (.result (.error e), s)
  | .refused failure => (.result (.error failure), s)

end Operation
end RecordRules
