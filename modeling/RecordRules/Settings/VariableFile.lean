import RecordRules.Settings.Environment
import RecordRules.Text.Blank

/-!
# Files of variables

A file of variables has an assignment on each line, `NAME=value`:

* a name can be in single quotes, and have `export` before it; one without a `=` has no value;
* a value in quotes can go over several lines and have escapes, one without ends with its line or
  with a comment after a blank;
* lines that cannot be read are left out.

In a value `${NAME}` stands for the value of another variable, and `${NAME:-default}` gives it a
default.

`VariableFile.assignments` reads a file, `VariableFile.extend` adds its variables to an environment;
what is set there already stays.  A variable of the environment can keep files from being read.
-/

set_option autoImplicit false

namespace RecordRules
namespace VariableFile

/-! ## Characters -/

/-- Whether a character ends a line. -/
def isLineEnd (c : Char) : Bool := c == '\n' || c == '\r'

/-- A blank that does not end a line. -/
def isGap (c : Char) : Bool := Text.isBlank c && !isLineEnd c

/-- A text whose lines all end in the same way. -/
def plainLines : List Char → List Char
  | '\r' :: '\n' :: rest => '\n' :: plainLines rest
  | '\r' :: rest => '\n' :: plainLines rest
  | c :: rest => c :: plainLines rest
  | [] => []

/-- The text after the gap at its start. -/
def skipGap (cs : List Char) : List Char := cs.dropWhile isGap

/-- The text after the present line. -/
def skipLine (cs : List Char) : List Char := (cs.dropWhile fun c => !isLineEnd c).drop 1

/-! ## Values in quotes -/

/-- The inside of a quoted text and what follows the closing quote, which is the first one that no
backslash escapes. -/
def closeQuote (quote : Char) : List Char → Option (List Char × List Char)
  | [] => none
  | '\\' :: c :: rest =>
    (closeQuote quote rest).map fun (inner, after) => ('\\' :: c :: inner, after)
  | c :: rest =>
    if c == quote then some ([], rest)
    else if c == '\\' then none
    else (closeQuote quote rest).map fun (inner, after) => (c :: inner, after)

/-- What the letter of an escape in single quotes stands for. -/
def singleEscape? : Char → Option Char
  | '\\' => some '\\'
  | '\'' => some '\''
  | _ => none

/-- What the letter of an escape in double quotes stands for. -/
def doubleEscape? : Char → Option Char
  | '\\' => some '\\'
  | '\'' => some '\''
  | '"' => some '"'
  | 'a' => some '\x07'
  | 'b' => some '\x08'
  | 'f' => some '\x0c'
  | 'n' => some '\n'
  | 'r' => some '\r'
  | 't' => some '\t'
  | 'v' => some '\x0b'
  | _ => none

/-- Replaces escapes. -/
def unescape (escape? : Char → Option Char) : List Char → List Char
  | '\\' :: c :: rest =>
    match escape? c with
    | some d => d :: unescape escape? rest
    | none => '\\' :: unescape escape? (c :: rest)
  | c :: rest => c :: unescape escape? rest
  | [] => []

/-- Cuts a comment after a blank off. -/
def cutComment : Option Char → List Char → List Char
  | _, [] => []
  | before, c :: rest =>
    if c == '#' && (before.map Text.isBlank).getD false then []
    else c :: cutComment (some c) rest

/-- A value, and what follows it; `before` is the character in front of it. -/
def readValue (before : Char) (cs : List Char) : Option (List Char × List Char) :=
  match cs with
  | '\'' :: rest =>
    (closeQuote '\'' rest).map fun (inner, after) => (unescape singleEscape? inner, after)
  | '"' :: rest =>
    (closeQuote '"' rest).map fun (inner, after) => (unescape doubleEscape? inner, after)
  | cs =>
    let line := cs.takeWhile fun c => !isLineEnd c
    some (Text.trimRight (cutComment (some before) line), cs.dropWhile fun c => !isLineEnd c)

/-! ## Lines -/

/-- An assignment of a file. -/
structure Assignment where
  name : String
  value : Option (List Char)
deriving DecidableEq, Repr

/-- The text after a word `export`, if it stands at the start before a gap. -/
def skipExport (cs : List Char) : List Char :=
  let word := "export".toList
  match cs.drop word.length with
  | c :: rest => if word.isPrefixOf cs && isGap c then skipGap rest else cs
  | [] => cs

/-- The name at the start of a line and what follows it; a comment has no name. -/
def readName (cs : List Char) : Option (Option (List Char) × List Char) :=
  match cs with
  | '#' :: _ => some (none, cs)
  | '\'' :: rest =>
    match rest.span (· != '\'') with
    | ([], _) => none
    | (name, _ :: after) => some (some name, after)
    | (_, []) => none
  | cs =>
    let inName (c : Char) : Bool := !(c == '=' || c == '#' || Text.isBlank c)
    let name := cs.takeWhile inName
    if name.isEmpty then none else some (some name, cs.dropWhile inName)

/-- The text after a comment and the end of the line, if nothing else stands there. -/
def endLine? (cs : List Char) : Option (List Char) :=
  let rest := match skipGap cs with
    | '#' :: more => more.dropWhile fun c => !isLineEnd c
    | _ => skipGap cs
  match rest with
  | [] => some []
  | c :: more => if isLineEnd c then some more else none

/-- Where reading goes on after a line: with the assignment of the line if there is one. -/
structure LineRead where
  assignment : Option Assignment
  rest : List Char

/-- Reads the rest of a line after its name. -/
def readRest (name : Option (List Char)) (cs : List Char) : LineRead :=
  let assigned (value : Option (List Char)) : Option Assignment :=
    name.map fun n => ⟨String.ofList n, value⟩
  match skipGap cs with
  | '=' :: more =>
    match readValue (((more.takeWhile isGap).getLast?).getD '=') (skipGap more) with
    | none => ⟨none, skipLine (skipGap more)⟩
    | some (value, after) =>
      match endLine? after with
      | some rest => ⟨assigned (some value), rest⟩
      | none => ⟨none, skipLine (skipGap (after))⟩
  | more =>
    match endLine? more with
    | some rest => ⟨assigned none, rest⟩
    | none => ⟨none, skipLine more⟩

/-- Reads a line that is not blank. -/
def readLine (cs : List Char) : LineRead :=
  match readName (skipExport cs) with
  | none => ⟨none, skipLine (skipExport cs)⟩
  | some (name, rest) => readRest name rest

/-- Reads at most so many lines. -/
def readLines : Nat → List Char → List Assignment
  | 0, _ => []
  | lines + 1, cs =>
    match cs.dropWhile Text.isBlank with
    | [] => []
    | start =>
      let line := readLine start
      line.assignment.toList ++ readLines lines line.rest

/-- The assignments of a file, which a mark of its encoding may precede. -/
def assignments (text : String) : List Assignment :=
  let marked := text.toList.head? == some (Char.ofNat 0xFEFF)
  let cs := plainLines (text.toList.drop (if marked then 1 else 0))
  readLines cs.length cs

/-! ## References to other variables -/

/-- A reference after its `${`: name, default, and what follows. -/
def reference? (cs : List Char) : Option (List Char × List Char × List Char) :=
  let name := cs.takeWhile fun c => c != '\x7d' && c != ':'
  match cs.dropWhile fun c => c != '\x7d' && c != ':' with
  | '\x7d' :: rest => some (name, [], rest)
  | ':' :: '-' :: more =>
    match more.span (· != '\x7d') with
    | (default, _ :: rest) => some (name, default, rest)
    | (_, []) => none
  | _ => none

/-- Replaces references, at most as many as given. -/
def substitute (lookup : String → Option String) : Nat → List Char → List Char
  | 0, cs => cs
  | _, [] => []
  | steps + 1, c :: rest =>
    match c, rest with
    | '$', '\x7b' :: more =>
      match reference? more with
      | some (name, default, after) =>
        ((lookup (String.ofList name)).map String.toList).getD default ++
          substitute lookup steps after
      | none => '$' :: substitute lookup steps rest
    | c, rest => c :: substitute lookup steps rest

/-- The value of a variable: that of the environment, or the one that the file has given it. -/
def lookup (env : Environment) (known : Fields (Option String)) (name : String) : Option String :=
  match Fields.get? env name with
  | some s => some s
  | none =>
    match known.get? name with
    | some (some s) => some s
    | some none => some ""
    | none => none

/-- Gives the variables of a file their values one after the other. -/
def resolve (env : Environment) : Fields (Option String) → List Assignment → Fields (Option String)
  | known, [] => known
  | known, a :: rest =>
    let value := a.value.map fun cs =>
      String.ofList (substitute (lookup env known) (cs.length + 1) cs)
    resolve env (known.set a.name value) rest

/-! ## Adding to an environment -/

/-- Why a variable cannot be set. -/
def problem? (name value : String) : Option Failure :=
  let zero := Char.ofNat 0
  if name.toList.contains zero || value.toList.contains zero then
    some (.ofMishap .value "embedded null byte")
  else if name.toList.contains '=' then
    some (.ofMishap .value "illegal environment variable name")
  else none

/-- Sets a variable to its value, if it has one and is not set already. -/
def add (env : Environment) (given : String × Option String) : Result Environment :=
  match given with
  | (name, some value) =>
    if Fields.has env name then .ok env
    else
      match problem? name value with
      | some problem => .error problem
      | none => .ok (env.set name value)
  | (_, none) => .ok env

/-- The variable that keeps files of variables from being read, and the words with which it does. -/
def disabling : String × List String :=
  ("PYTHON_DOTENV_DISABLED", ["1", "true", "t", "yes", "y"])

/-- Whether two texts differ in case at most. -/
def sameWord : List Char → List Char → Bool
  | [], [] => true
  | c :: cs, d :: ds => Text.sameLetter c d && sameWord cs ds
  | _, _ => false

/-- Whether files of variables are not read. -/
def isDisabled (env : Environment) : Bool :=
  match Fields.get? env disabling.1 with
  | some word => disabling.2.any fun known => sameWord known.toList word.toList
  | none => false

/-- Adds the variables of a file to an environment. -/
def extend (env : Environment) (text : String) : Result Environment :=
  if isDisabled env then .ok env else (resolve env [] (assignments text)).foldlM add env

end VariableFile
end RecordRules
