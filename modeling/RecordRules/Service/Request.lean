import RecordRules.Json.Encoding
import RecordRules.Json.Reader
import RecordRules.Schema.Checked
import RecordRules.Service.Header
import RecordRules.Service.Target

/-!
# Requests

A request names a method and an address, and brings headers and possibly a body.

* `path` is the path of the address without escapes, `queried` what the address asks for beyond it,
  and `unsendable?` why a request is not sent at all.
* `Body` is what a request brings; `Request.bring` reads it.
-/

set_option autoImplicit false

namespace RecordRules

/-- A request. -/
structure Request where
  method : String
  /-- The path, and possibly a host in front of it, and a question mark and a query behind it. -/
  address : String
  headers : List (String × String) := []
  body : Option String := none
deriving Inhabited

namespace Request

/-- A name of a method or header does not depend on its case. -/
def sameName (a b : String) : Bool := a.map Char.toLower == b.map Char.toLower

/-- The value of a header. -/
def header? (r : Request) (name : String) : Option String :=
  (r.headers.find? fun (known, _) => sameName known name).map Prod.snd

/-- The method in capitals. -/
def verb (r : Request) : String := r.method.map Char.toUpper

/-- Where the request is sent. -/
def target (r : Request) : Target := .read r.address

/-- Why a request cannot be sent: its address is wrong, or its headers are not ASCII. -/
def unsendable? (r : Request) : Option Failure :=
  Target.problem? r.address <|>
    (r.headers.findSome? fun (name, value) =>
      CharacterSet.ascii.obstacle? name <|> CharacterSet.ascii.obstacle? value) <|>
    r.target.schemeProblem?

/-- The steps of the path from the root. -/
def path (r : Request) : List String := r.target.steps

/-- The value that the query gives a name; of several the last counts. -/
def queried (r : Request) (name : String) : Option String :=
  ((Text.queryFields r.target.query).reverse.find? fun (known, _) => known == name).map Prod.snd

/-! ## Bodies -/

/-- Why a body cannot be read. -/
inductive Unreadable where
  /-- It is no JSON from a position on. -/
  | notJson (position : Nat)
  /-- It is no text, or holds a number that is too large, or too many brackets in each other. -/
  | unusable
deriving DecidableEq, Repr

/-- The type of a body, without parameters and in lower case. -/
def mediaType (header : String) : List Char :=
  (Text.trim (header.toList.takeWhile (· != ';'))).map Char.toLower

/-- Whether a body of a type is JSON. -/
def isJson (header : String) : Bool :=
  match Text.pieces ['/'] (mediaType header) with
  | [main, sub] =>
    main == "application".toList && (sub == "json".toList || "+json".toList.isSuffixOf sub)
  | _ => false

/-- How many levels of brackets a body may have. -/
def deepest : Nat := 950

/-- What a request brings: nothing, the value that its body writes, or the body itself if it is not
said to be JSON. -/
def data (r : Request) : Except Unreadable Value :=
  match r.body with
  | none => .ok .null
  | some body =>
    if body.isEmpty then .ok .null
    else if !isJson ((r.header? "Content-Type").getD "application/json") then .ok (.text body)
    else
      let marked := body.toList.head? == some (Char.ofNat 0xFEFF)
      match if marked then some (body.drop 1).toString else Json.decoded? body with
      | none => .error .unusable
      | some text =>
        match Json.readWithin deepest text with
        | .ok v => .ok v
        | .error (.expected _ position) => .error (.notJson position)
        | .error (.number _) => .error .unusable
        | .error .tooDeep => .error .unusable

end Request

namespace Shape

variable {α : Type}

/-- A map that describes what a request asks for. -/
def asked (check : Fields Value → Checked α) : Value → Checked α
  | .map entries => check entries
  | _ => Checked.wrong .modelAttributesType

/-- The body of a request that has to have one. -/
def body (check : Fields Value → Checked α) (data : Value) : Checked α :=
  Checked.under (.field "body") <|
    match data with
    | .null => Checked.wrong .missing
    | v => asked check v

/-- The body of a request that need not have one. -/
def body? (check : Fields Value → Checked α) (data : Value) : Checked (Option α) :=
  (nullable (asked check) data).under (.field "body")

end Shape
end RecordRules
