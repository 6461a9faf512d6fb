import RecordRules.Service.Endpoint
import RecordRules.Service.Origin

/-!
# Answering requests

`System.respond` answers a request: the service starts if need be, the request is sent, the endpoint
is found, what it asks for is checked, and its task is carried out.
-/

set_option autoImplicit false

namespace RecordRules
namespace System

/-- Starts the service unless it has started. -/
def start (s : System) : Result Unit × System :=
  match s.service.withdrawn with
  | some _ => (.ok (), s)
  | none =>
    match s.service.start with
    | (.ok (some db), service) => (.ok (), { s with service, database := db })
    | (.ok none, service) => (.ok (), { s with service })
    | (.error e, service) => (.error e, { s with service })

/-- The response to a request whose body cannot be read. -/
def unreadable : Request.Unreadable → Response
  | .notJson position =>
    Response.ofViolations .null [⟨[.field "body", .index position], .jsonInvalid⟩]
  | .unusable => Response.ofDetail 400 (.text "There was an error parsing the body")

/-- The task of a request to an endpoint, or the response if it has none. -/
def taskOf (s : System) (e : Endpoint) (r : Request) : Except Response Task := do
  let data ← if e.readsBody then r.data.mapError unreadable else pure .null
  match e.parts.find? s.service.isMissing with
  | some part => throw (Response.ofDetail 500 (.text (part.title ++ " not initialized")))
  | none => (e.task r data).result.mapError (Response.ofViolations data)

/-- A response that the page which sent the request may read, unless nobody else may. -/
def readable (s : System) (r : Request) (response : Response) : Response :=
  if response.shareable then
    { response with allowedOrigin := Service.readableBy s.service.settings r }
  else response

/-- The response to the result of a task, as its endpoint shows it. -/
def concluded (s : System) (e : Endpoint) : Result Value → Response
  | .ok v => Response.ofValue e.knownLevels (e.shown s.service v)
  | .error (.fault f) => Response.ofFault f
  | .error (.mishap m) => Response.unexpected m.kind
  | .error (.violations ..) => Response.unexpected .validation

/-- The response to a request for an endpoint, and the system afterwards. -/
def answer (s : System) (e : Endpoint) (r : Request) : Response × System :=
  match s.taskOf e r with
  | .error response => (s.readable r response, s)
  | .ok task =>
    let (result, after) := task.run s
    (s.readable r (s.concluded e result), after)

/-- The response to a request as the service that has started gives it. -/
def handle (s : System) (r : Request) : Response × System :=
  match Service.inquiry? s.service.settings r with
  | some (origin, method) => (Service.answerInquiry s.service.settings origin method, s)
  | none =>
    match Endpoint.find? r.path with
    | none => (s.readable r (Response.ofDetail 404 (.text "Not Found")), s)
    | some e =>
      if e.method == r.verb then s.answer e r
      else (s.readable r (Response.ofDetail 405 (.text "Method Not Allowed")), s)

/-- A response as it is sent: one to a request for the headers alone is empty, and it has the id
under which the request was sent. -/
def sent (r : Request) (response : Response) : Response :=
  { response with
    content := if r.verb == "HEAD" then .text "" else response.content
    requestId := r.header? "X-Request-ID" }

/-- The response to a request, and the system afterwards. -/
def respond (s : System) (r : Request) : Result Response × System :=
  match s.start with
  | (.error e, s) => (.error e, s)
  | (.ok (), s) =>
    match r.unsendable? with
    | some problem => (.error problem, s)
    | none =>
      let (response, after) := s.handle r
      (.ok (sent r response), after)

end System
end RecordRules
