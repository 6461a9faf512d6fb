import RecordRules.Json.Writer
import RecordRules.Service.Request
import RecordRules.Service.Response

/-!
# Requests and responses on a line

A request can be written as a method, an address and possibly a body, with blanks between them.  A
response is written as its status and what it holds.
-/

set_option autoImplicit false

namespace RecordRules

/-- The request that a line writes. -/
def Request.ofLine (line : String) : Request :=
  let cs := Text.trim line.toList
  let (method, rest) := cs.span (· != ' ')
  let (address, rest) := (rest.dropWhile (· == ' ')).span (· != ' ')
  let body := rest.dropWhile (· == ' ')
  { method := String.ofList method, address := String.ofList address
    body := if body.isEmpty then none else some (String.ofList body) }

/-- A response on a line. -/
def Response.line (r : Response) : String :=
  let content := match r.content with
    | .json v => String.ofList (Json.encode .asGiven v)
    | .text s => s
  s!"{r.status} {content}"

end RecordRules
