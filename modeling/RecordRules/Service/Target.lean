import RecordRules.Failure
import RecordRules.Number.Reading
import RecordRules.Text.Percent

/-!
# Targets of requests

The address of a request is a path on the service and what is asked for beyond it: `/path?query`.
It can also name a scheme and a host, in front of the path; every host is the service.

* `Target.read` takes an address apart.
* `Target.problem?` is what is wrong with one.
* `Target.steps` are the steps of the path from the root.
-/

set_option autoImplicit false

namespace RecordRules

/-- An address, taken apart. -/
structure Target where
  scheme : List Char := []
  user : List Char := []
  host : List Char := []
  port : List Char := []
  path : List Char := []
  query : List Char := []
deriving Inhabited

namespace Target

/-! ## Reading -/

/-- A scheme with its colon, and what follows it.  The scheme can be empty. -/
def takeScheme (cs : List Char) : List Char × List Char :=
  let inScheme (c : Char) : Bool := c.isAlphanum || ['+', '.', '-'].contains c
  match cs.span inScheme with
  | ([], ':' :: rest) => ([], rest)
  | (c :: scheme, ':' :: rest) => if c.isAlpha then (c :: scheme, rest) else ([], cs)
  | _ => ([], cs)

/-- The name of a host, and what follows it.  In brackets it can hold anything. -/
def takeHost (cs : List Char) : List Char × List Char :=
  let inHost (c : Char) : Bool := c != ':' && c != '@'
  match cs, Text.cutLast? [']'] cs with
  | '[' :: _, some (start, rest) => (start ++ [']'], rest)
  | _, _ => cs.span inHost

/-- Takes an address apart. -/
def read (address : String) : Target :=
  let (scheme, cs) := takeScheme address.toList
  let (authority, cs) := match cs with
    | '/' :: '/' :: rest => rest.span fun c => !(['/', '?', '#'].contains c)
    | _ => ([], cs)
  let (user, place) := (Text.cut? ['@'] authority).getD ([], authority)
  let (host, port) := takeHost place
  let (path, cs) := cs.span fun c => !(['?', '#'].contains c)
  { scheme, user, host, path
    port := if port.head? == some ':' then port.drop 1 else port
    query := match cs with
      | '?' :: rest => rest.takeWhile (· != '#')
      | _ => [] }

/-! ## Problems -/

/-- A failure of an address. -/
def bad (message : String) : Failure := .ofMishap .url message

/-- The length of the longest address. -/
def longestAddress : Nat := 65536

/-- What is wrong with an address as a text: it is too long, or holds a control character. -/
def textProblem? (address : String) : Option Failure :=
  let cs := address.toList
  if longestAddress < cs.length then some (bad "URL too long")
  else
    (cs.find? fun c => c.toNat < 0x20 || c.toNat = 0x7F).map fun c =>
      bad (s!"Invalid non-printable ASCII character in URL, " ++
        s!"{Text.quoted (String.singleton c)} at position {cs.idxOf c}.")

/-- How far a text can have got in a number of four parts, each made of digits: the part it is in,
and whether that has a digit already. -/
abbrev Progress := List (Nat × Bool)

/-- Goes on by a character.  Any character can end a part. -/
def advance (progress : Progress) (c : Char) : Progress :=
  (progress.flatMap fun (part, begun) =>
    (if c.isDigit then [(part, true)] else []) ++
      (if begun && part < 3 then [(part + 1, false)] else [])).eraseDups

/-- Whether a host looks like a number of four parts. -/
def looksNumeric (host : List Char) : Bool :=
  (host.foldl advance [(0, false)]).contains (3, true)

/-- Whether a text is a byte without leading zeros. -/
def isByte (cs : List Char) : Bool :=
  !cs.isEmpty && cs.length ≤ 3 && cs.all Char.isDigit && Text.readDigits cs < 256 &&
    (cs.length == 1 || cs.head? != some '0')

/-- Whether a host is a number of four bytes. -/
def isNumeric (host : List Char) : Bool :=
  let parts := Text.pieces ['.'] host
  parts.length == 4 && parts.all isByte

/-- What is wrong with a host and a port. -/
def hostProblem? (t : Target) : Option Failure :=
  if looksNumeric t.host && !isNumeric t.host then
    some (bad ("Invalid IPv4 address: " ++ Text.quoted (String.ofList t.host)))
  else if !t.port.isEmpty && (integerDigits? t.port).isNone then
    some (bad ("Invalid port: " ++ Text.quoted (String.ofList t.port)))
  else none

/-- Whether a target names a host or a part of one. -/
def hasPlace (t : Target) : Bool := !(t.user.isEmpty && t.host.isEmpty && t.port.isEmpty)

/-- What is wrong with a path.  One that stands alone must not look like a host or a scheme. -/
def pathProblem? (t : Target) : Option Failure :=
  if !t.scheme.isEmpty || t.hasPlace then none
  else
    match t.path with
    | '/' :: '/' :: _ => some (bad "Relative URLs cannot have a path starting with '//'")
    | ':' :: _ => some (bad "Relative URLs cannot have a path starting with ':'")
    | _ => none

/-- What is wrong with an address. -/
def problem? (address : String) : Option Failure :=
  textProblem? address <|> hostProblem? (read address) <|> pathProblem? (read address)

/-- Whether a target names the host that it is for. -/
def isAbsolute (t : Target) : Bool := !t.scheme.isEmpty && !t.host.isEmpty

/-- What is wrong with the scheme of a target: the service knows two of them. -/
def schemeProblem? (t : Target) : Option Failure :=
  let scheme := String.ofList (t.scheme.map Char.toLower)
  if t.isAbsolute && !(["http", "https"].contains scheme) then
    some (.ofMishap .key (Text.quoted scheme))
  else none

/-! ## Paths -/

/-- Follows the steps `.` and `..` of a path; the steps before are given in reverse. -/
def resolved : List (List Char) → List (List Char) → List (List Char)
  | before, [] => before.reverse
  | before, step :: rest =>
    if step == ['.'] then resolved before rest
    else if step == ['.', '.'] then resolved before.tail rest
    else resolved (step :: before) rest

/-- The steps of the path from the root, without escapes.  They are undone twice: once where the
request is sent and once where it arrives.  Slashes in front of a path that stands alone count as
one. -/
def steps (t : Target) : List String :=
  let path := if t.isAbsolute then t.path.drop 1 else t.path.dropWhile (· == '/')
  let steps := resolved [] (Text.pieces ['/'] path)
  let decoded := Text.unescaped (Text.unescaped (List.intercalate ['/'] steps))
  (Text.pieces ['/'] decoded).map String.ofList

end Target
end RecordRules
