import RecordRules.Store.Metadata
import RecordRules.Measure.Cache
import RecordRules.Measure.Parameters

/-!
# Evaluating measures

`evaluateMeasure` finds a measure, settles its parameters and evaluates its expression, unless the
cache of the unit of work already has the value.  Failures are not kept in the cache.

`evaluateMeasures` evaluates several measures up to the first failure, with one cache.
-/

set_option autoImplicit false

namespace RecordRules

/-- The fault of a measure, or a version of it, that does not exist. -/
def Measure.notFound (identifier : String) (version : Option Int) : Fault :=
  let suffix := match version with
    | some n => s!" version {n}"
    | none => ""
  (Fault.of .notFound s!"Measure not found: {identifier}{suffix}"
    [("resource_type", .text "measure"), ("resource_id", .text identifier)]).addContext
    [("version", match version with
      | some n => .int n
      | none => .null)]

/-- The measure of an identifier in a version, or in its latest one. -/
def findMeasure (db : Database) (identifier : String) (version : Option Int) : Result Measure := do
  let found ← match version with
    | some n => db.getMeasure identifier n
    | none => db.getLatestMeasure identifier
  match found with
  | some m => return m
  | none => throw (.fault (Measure.notFound identifier version))

/-- The fault of a measure whose expression fails. -/
def Measure.evaluationFault (m : Measure) (e : Expression.Error) : Fault :=
  Fault.of .measureEvaluation s!"Measure evaluation failed: {e.message}"
    [("measure_identifier", .text m.identifier), ("version", .int m.version)]

/-- The value of the expression of a measure. -/
def Measure.compute (m : Measure) (limits : Expression.Limits) (parameters : Fields Value) :
    Result Value :=
  (Expression.evaluate limits (Measure.context parameters) m.expression).mapError fun e =>
    .fault (m.evaluationFault e)

/-- A measure with its settled parameters, and the key of its value. -/
structure MeasureCall where
  measure : Measure
  parameters : Fields Value
  key : String
deriving Inhabited

/-- Finds a measure and settles its parameters. -/
def prepareMeasure (db : Database) (identifier : String) (version : Option Int)
    (supplied : Fields Value) : Result MeasureCall := do
  let measure ← findMeasure db identifier version
  let parameters ← (measure.resolve supplied).mapError Failure.fault
  let key ← (Measure.cacheKey measure.identifier measure.version parameters).mapError
    ValueError.toFailure
  return { measure, parameters, key }

namespace MeasureCall

/-- The value of a measure as its result. -/
def result (c : MeasureCall) (value : Value) : MeasureResult :=
  { identifier := c.measure.identifier, version := c.measure.version, result := value }

/-- Evaluates with a cache. -/
def evaluateWith (c : MeasureCall) (limits : Expression.Limits) (cache : Cache) :
    Result MeasureResult × Cache :=
  match cache.lookup c.key with
  | (some value, asked) => (.ok (c.result value), asked)
  | (none, asked) =>
    match c.measure.compute limits c.parameters with
    | .ok value => (.ok (c.result value), asked.store c.key value)
    | .error e => (.error e, asked)

end MeasureCall

/-- Evaluates a measure without a cache. -/
def evaluateMeasure (db : Database) (limits : Expression.Limits) (request : MeasureRequest) :
    Result MeasureResult := do
  let call ← prepareMeasure db request.identifier request.version request.parameters
  return call.result (← call.measure.compute limits call.parameters)

/-- Evaluates a measure with the cache of a unit of work. -/
def evaluateMeasureWith (db : Database) (limits : Expression.Limits) (cache : Cache)
    (request : MeasureRequest) : Result MeasureResult × Cache :=
  match prepareMeasure db request.identifier request.version request.parameters with
  | .ok call => call.evaluateWith limits cache
  | .error e => (.error e, cache)

/-- Evaluates measures in order, up to the first that fails, with the cache of a unit of work. -/
def evaluateMeasuresWith (db : Database) (limits : Expression.Limits) :
    Cache → List MeasureRequest → Result (List MeasureResult) × Cache
  | cache, [] => (.ok [], cache)
  | cache, request :: rest =>
    match evaluateMeasureWith db limits cache request with
    | (.error e, cache) => (.error e, cache)
    | (.ok first, cache) =>
      let (results, last) := evaluateMeasuresWith db limits cache rest
      (results.map (first :: ·), last)

/-- Evaluates measures in order, up to the first that fails, as a unit of work of their own. -/
def evaluateMeasures (db : Database) (limits : Expression.Limits)
    (requests : List MeasureRequest) : Result (List MeasureResult) :=
  (evaluateMeasuresWith db limits {} requests).1

end RecordRules
