import RecordRules.Text.Surrogate
import RecordRules.Value.Coercion

/-!
# Reading JSON

`Json.read` reads a text as a value, or says what it expected and at which position, in characters.
Beyond the standard it takes the words `NaN`, `Infinity` and `-Infinity`.  A number without point
and exponent is an integer of any size.  Of two entries under one name the later one counts.

The reader goes through the text once.  Every step takes a character or goes one level deeper into
a bracket that was taken, so twice the length of the text bounds their number.
-/

set_option autoImplicit false

namespace RecordRules
namespace Json

/-- What a reader expected and did not find. -/
inductive Expected where
  | value
  | name
  | colon
  | comma
  | endOfText
  | closingQuote
  | plainChar
  | escape
  | unicodeEscape
deriving DecidableEq, Repr

/-- Why a text is no JSON. -/
inductive SyntaxError where
  /-- Something else was expected at a position. -/
  | expected (what : Expected) (position : Nat)
  /-- A number cannot be held. -/
  | number (error : ValueError)
  /-- Too many brackets stand in each other. -/
  | tooDeep
deriving DecidableEq, Repr

/-- The rest of a text, and how many characters stand before it. -/
structure Cursor where
  rest : List Char
  position : Nat

/-- The cursor behind `n` characters. -/
def Cursor.skip (here : Cursor) (n : Nat) : Cursor := ⟨here.rest.drop n, here.position + n⟩

/-- Whether a character may stand between the parts of a text. -/
def isSpace (c : Char) : Bool := c == ' ' || c == '\t' || c == '\n' || c == '\r'

/-- The cursor behind the spaces. -/
def Cursor.skipSpaces (here : Cursor) : Cursor :=
  here.skip (here.rest.takeWhile isSpace).length

/-- What a reader yields, unless the text is no JSON. -/
abbrev Reader := Except SyntaxError

/-- Fails at a cursor. -/
def failAt {α : Type} (what : Expected) (here : Cursor) : Except SyntaxError α :=
  .error (.expected what here.position)

/-! ## Texts -/

/-- The unit that four hexadecimal digits at the start of a text write. -/
def unit? (cs : List Char) : Option Nat :=
  let digits := cs.take 4
  if digits.length == 4 then
    (digits.mapM Text.hexValue?).map fun ds => ds.foldl (fun n d => n * 16 + d) 0
  else none

/-- The character of an escape by one letter. -/
def simpleEscape? : Char → Option Char
  | '"' => some '"'
  | '\\' => some '\\'
  | '/' => some '/'
  | 'b' => some (Char.ofNat 8)
  | 'f' => some (Char.ofNat 12)
  | 'n' => some '\n'
  | 'r' => some '\r'
  | 't' => some '\t'
  | _ => none

/-- The character of an escape by UTF-16 units whose first digits `cs` are, and how many
characters of `cs` it takes.  The character after the digits must exist. -/
def unicodeEscape? (cs : List Char) : Option (Char × Nat) :=
  match unit? cs, cs.drop 4 with
  | some high, after@(_ :: _) =>
    match after with
    | '\\' :: 'u' :: more =>
      match unit? more with
      | some low =>
        if Text.arePair high low then some (Text.ofPair high low, 10)
        else some (Text.ofUnit high, 4)
      | none => some (Text.ofUnit high, 4)
    | _ => some (Text.ofUnit high, 4)
  | _, _ => none

/-- The characters of a text up to its closing quote; `start` is where the text began, `skip`
how many characters belong to the escape before. -/
def readChars (start : Nat) : Nat → List Char → Nat → List Char → Reader (String × Cursor)
  | _, [], _, _ => .error (.expected .closingQuote start)
  | skip + 1, _ :: cs, position, acc => readChars start skip cs (position + 1) acc
  | 0, c :: cs, position, acc =>
    if c == '"' then .ok (String.ofList acc.reverse, ⟨cs, position + 1⟩)
    else if c == '\\' then
      match cs with
      | [] => .error (.expected .closingQuote start)
      | 'u' :: digits =>
        match unicodeEscape? digits with
        | some (char, taken) => readChars start (taken + 1) cs (position + 1) (char :: acc)
        | none => .error (.expected .unicodeEscape (position + 1))
      | letter :: _ =>
        match simpleEscape? letter with
        | some char => readChars start 1 cs (position + 1) (char :: acc)
        | none => .error (.expected .escape position)
    else if c.toNat < 0x20 then .error (.expected .plainChar position)
    else readChars start 0 cs (position + 1) (c :: acc)

/-- A text; the cursor stands behind its opening quote. -/
def readText (here : Cursor) : Reader (String × Cursor) :=
  readChars (here.position - 1) 0 here.rest here.position []

/-! ## Numbers -/

/-- The length of the fraction at the start of a text: a point and digits. -/
def fractionLength : List Char → Nat
  | '.' :: cs =>
    let digits := (cs.takeWhile Char.isDigit).length
    if digits == 0 then 0 else digits + 1
  | _ => 0

/-- The length of the exponent at the start of a text: a mark, a sign and digits. -/
def exponentLength : List Char → Nat
  | c :: cs =>
    if c == 'e' || c == 'E' then
      let sign := match cs with
        | s :: _ => if s == '+' || s == '-' then 1 else 0
        | [] => 0
      let digits := ((cs.drop sign).takeWhile Char.isDigit).length
      if digits == 0 then 0 else 1 + sign + digits
    else 0
  | [] => 0

/-- The length of the whole part at the start of a text: zero, or digits that do not start
with it. -/
def wholeLength (cs : List Char) : Nat :=
  match cs with
  | '0' :: _ => 1
  | _ => (cs.takeWhile Char.isDigit).length

/-- A number. -/
def readNumber (here : Cursor) : Reader (Value × Cursor) :=
  let sign := match here.rest with
    | '-' :: _ => 1
    | _ => 0
  let whole := wholeLength (here.rest.drop sign)
  if whole == 0 then failAt .value here
  else
    let afterWhole := here.skip (sign + whole)
    let fraction := fractionLength afterWhole.rest
    let exponent := exponentLength (afterWhole.rest.drop fraction)
    let length := sign + whole + fraction + exponent
    let text := here.rest.take length
    if fraction == 0 && exponent == 0 then
      if digitLimit < whole then .error (.number (.literalTooLong whole))
      else
        let size : Int := Text.readDigits (text.drop sign)
        .ok (.int (if sign == 1 then -size else size), here.skip length)
    else
      match Double.read? text with
      | some x => .ok (.float x, here.skip length)
      | none => failAt .value here

/-! ## Values -/

/-- The words that stand for a value. -/
def wordValues : List (List Char × Value) :=
  [("null".toList, .null), ("true".toList, .bool true), ("false".toList, .bool false),
   ("NaN".toList, .nan 0), ("Infinity".toList, .float (1.0 / 0.0)),
   ("-Infinity".toList, .float (-1.0 / 0.0))]

/-- A word or a number. -/
def readScalar (here : Cursor) : Reader (Value × Cursor) :=
  match wordValues.find? fun (word, _) => word.isPrefixOf here.rest with
  | some (word, value) => .ok (value, here.skip word.length)
  | none => readNumber here

mutual

/-- A value, in a number of steps; brackets may stand in each other so many levels deep. -/
def readValue : Nat → Nat → Cursor → Reader (Value × Cursor)
  | 0, _, here => failAt .value here
  | steps + 1, levels, here =>
    match here.rest with
    | '"' :: _ => do
      let (text, next) ← readText (here.skip 1)
      return (.text text, next)
    | '\x7b' :: _ =>
      match levels with
      | 0 => .error .tooDeep
      | levels + 1 =>
        let inside := (here.skip 1).skipSpaces
        match inside.rest with
        | '\x7d' :: _ => .ok (.map [], inside.skip 1)
        | _ => do
          let (entries, next) ← readEntries steps levels inside []
          return (.map entries, next)
    | '[' :: _ =>
      match levels with
      | 0 => .error .tooDeep
      | levels + 1 =>
        let inside := (here.skip 1).skipSpaces
        match inside.rest with
        | ']' :: _ => .ok (.list [], inside.skip 1)
        | _ => do
          let (items, next) ← readItems steps levels inside []
          return (.list items, next)
    | _ => readScalar here

/-- The items of a list up to its closing bracket; the ones before in reverse. -/
def readItems : Nat → Nat → Cursor → List Value → Reader ((List Value) × Cursor)
  | 0, _, here, _ => failAt .value here
  | steps + 1, levels, here, before => do
    let (item, next) ← readValue steps levels here
    let next := next.skipSpaces
    match next.rest with
    | ']' :: _ => return ((item :: before).reverse, next.skip 1)
    | ',' :: _ => readItems steps levels (next.skip 1).skipSpaces (item :: before)
    | _ => failAt .comma next

/-- The entries of a map up to its closing brace. -/
def readEntries :
    Nat → Nat → Cursor → List (String × Value) → Reader ((List (String × Value)) × Cursor)
  | 0, _, here, _ => failAt .name here
  | steps + 1, levels, here, before =>
    match here.rest with
    | '"' :: _ => do
      let (name, next) ← readText (here.skip 1)
      let colon := next.skipSpaces
      match colon.rest with
      | ':' :: _ =>
        let (value, next) ← readValue steps levels (colon.skip 1).skipSpaces
        let entries := Fields.set before name value
        let next := next.skipSpaces
        match next.rest with
        | '\x7d' :: _ => return (entries, next.skip 1)
        | ',' :: _ => readEntries steps levels (next.skip 1).skipSpaces entries
        | _ => failAt .comma next
      | _ => failAt .colon colon
    | _ => failAt .name here

end

/-- Reads a text as a value, spaces around it aside, whose brackets stand at most so many levels
deep in each other. -/
def readWithin (levels : Nat) (text : String) : Except SyntaxError Value := do
  let cs := text.toList
  let start := Cursor.skipSpaces ⟨cs, 0⟩
  let (value, next) ← readValue (2 * cs.length + 1) levels start
  let after := next.skipSpaces
  if after.rest.isEmpty then return value else failAt .endOfText after

/-- Reads a text as a value, spaces around it aside. -/
def read (text : String) : Except SyntaxError Value := readWithin text.length text

end Json
end RecordRules
