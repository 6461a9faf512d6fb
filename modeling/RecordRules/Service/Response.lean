import RecordRules.Json.Strict
import RecordRules.Service.Header
import RecordRules.Store.Refusal

/-!
# Responses

A response is made for every way in which a request can end: `Response.ofValue` of a result,
`Response.ofFault` of a fault, `Response.ofViolations` of data that is not what was asked for.  What
else goes wrong is not the concern of the caller: `Response.unexpected`.

What is reported back is strict JSON; a report that cannot be written is unexpected itself.
-/

set_option autoImplicit false

namespace RecordRules

/-- What a response holds. -/
inductive Content where
  | json (value : Value)
  | text (text : String)
deriving Inhabited

/-- A response. -/
structure Response where
  status : Nat
  content : Content
  /-- The origin that may read it. -/
  allowedOrigin : Option String := none
  /-- The methods that other origins may use. -/
  allowedMethods : Option String := none
  /-- The id under which the request was sent; otherwise the response has a new one. -/
  requestId : Option String := none
  /-- Whether pages of other origins can be allowed to read it at all. -/
  shareable : Bool := true
deriving Inhabited

namespace Response

/-- A response with a text. -/
def ofText (status : Nat) (text : String) : Response := { status, content := .text text }

/-- The response if something unexpected went wrong. -/
def unexpected (kind : Mishap.Kind) : Response :=
  { status := 500
    content := .json (.map
      [("error", .text "InternalServerError"),
       ("message", .text "An unexpected error occurred"),
       ("details", .map [("error_type", .text kind.label)])])
    shareable := false }

/-- How many values may be in each other where nothing is known about them. -/
def deepest : Nat := 254

/-- A response with a value of which so many levels are known.  Half a character in a name is
replaced, but not in a text. -/
def ofValue (known : Nat) (v : Value) : Response :=
  if Json.hasHalf false v || known + deepest < Json.depth v then unexpected .serialization
  else { status := 200, content := .json (Json.wholeNames v.plain) }

/-- A response with a report, if the report can be written and sent. -/
def ofReport (status : Nat) (report : Value) : Response :=
  match Json.problem? [report] with
  | some problem => unexpected problem.kind
  | none => { status, content := .json report.plain }

/-- A response that says what is wrong. -/
def ofDetail (status : Nat) (detail : Value) : Response :=
  ofReport status (.map [("detail", detail)])

/-! ## Violations -/

/-- A step of a place as a value. -/
def placeValue : Place → Value
  | .field name => .text name
  | .index n => .int n

/-- A violation as a value. -/
def violationValue (v : Violation) : Value :=
  .map [("loc", .list (v.place.map placeValue)), ("type", .text v.kind.label)]

/-- What stands at a place in a value. -/
def valueAt? : Value → List Place → Option Value
  | v, [] => some v
  | .map entries, .field name :: rest =>
    match Fields.get? entries name with
    | some v => valueAt? v rest
    | none => none
  | .list items, .index n :: rest =>
    match items[n]? with
    | some v => valueAt? v rest
    | none => none
  | _, _ :: _ => none

/-- The part of the data that a violation is about; where something is missing, that is what it is
missing from. -/
def culprit? (data : Value) (v : Violation) : Option Value :=
  match v.place with
  | .field "body" :: place =>
    valueAt? data (if v.kind = .missing then place.dropLast else place)
  | _ => none

/-- The response to a request whose data violates what its endpoint asks for.  It repeats the parts
of the data that are wrong, so these have to be such that they can be written. -/
def ofViolations (data : Value) (vs : List Violation) : Response :=
  match Json.problem? (vs.filterMap (culprit? data)) with
  | some problem => unexpected problem.kind
  | none => ofDetail 422 (.list (vs.map violationValue))

/-! ## Faults -/

/-- The response to a fault. -/
def ofFault (f : Fault) : Response := ofDetail f.status (.map f.response)

/-- A fault reported on its own, under the id of a request. -/
def report (f : Fault) (requestId : Option String) : Result Response :=
  match Json.problem? [.map f.response] with
  | some problem => .error (.mishap problem)
  | none =>
    let id := requestId.filter fun id => !id.isEmpty
    match id.bind CharacterSet.latin1.obstacle? with
    | some problem => .error problem
    | none =>
      .ok { status := f.status, content := .json (.map f.response), requestId := id }

end Response
end RecordRules
