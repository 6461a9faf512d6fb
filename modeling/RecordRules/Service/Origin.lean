import RecordRules.Service.Basic
import RecordRules.Service.Request
import RecordRules.Service.Response

/-!
# Requests from other origins

A page of another origin may read a response if the settings allow its origin; `*` allows every one.
Before it sends a request that is more than a plain one, a browser asks for leave (`isInquiry`), and
`answerInquiry` gives or refuses it.  Without any origin in the settings nobody is asked.
-/

set_option autoImplicit false

namespace RecordRules
namespace Service

/-- The methods that `*` stands for. -/
def everyMethod : List String := ["DELETE", "GET", "HEAD", "OPTIONS", "PATCH", "POST", "PUT"]

/-- Whether a text is among values. -/
def names (values : List Value) (text : String) : Bool := values.any (Value.same (.text text))

/-- Whether every origin is allowed. -/
def allowsAnyOrigin (s : Settings) : Bool := names s.corsOrigins "*"

/-- Whether an origin is allowed. -/
def allowsOrigin (s : Settings) (origin : String) : Bool :=
  allowsAnyOrigin s || names s.corsOrigins origin

/-- The methods that other origins may use. -/
def allowedMethods (s : Settings) : List String :=
  if names s.corsMethods "*" then everyMethod
  else s.corsMethods.filterMap fun v => match v with
    | .text method => some method
    | _ => none

/-- The origin and the method for which a request asks for leave, if it does. -/
def inquiry? (s : Settings) (r : Request) : Option (String × String) :=
  if s.corsOrigins.isEmpty || r.verb != "OPTIONS" then none
  else
    match r.header? "Origin", r.header? "Access-Control-Request-Method" with
    | some origin, some method => some (origin, method)
    | _, _ => none

/-- Gives leave to an origin to use a method, or refuses it.  The methods it may use are listed in a
header. -/
def answerInquiry (s : Settings) (origin method : String) : Response :=
  let methods := allowedMethods s
  let refused := (if allowsOrigin s origin then [] else ["origin"]) ++
    if methods.contains method then [] else ["method"]
  let answer := match refused with
    | [] => Response.ofText 200 "OK"
    | _ => Response.ofText 400 ("Disallowed CORS " ++ String.intercalate ", " refused)
  let listed := String.intercalate ", " methods
  if (CharacterSet.latin1.obstacle? listed).isSome then Response.unexpected .encoding
  else
    { answer with
      allowedOrigin := if allowsOrigin s origin then some origin else none
      allowedMethods := some listed }

/-- The origin that may read the response to a request.  One that sends cookies is named. -/
def readableBy (s : Settings) (r : Request) : Option String :=
  match r.header? "Origin" with
  | none => none
  | some origin =>
    if allowsAnyOrigin s then some (if (r.header? "Cookie").isSome then origin else "*")
    else if allowsOrigin s origin then some origin
    else none

end Service
end RecordRules
