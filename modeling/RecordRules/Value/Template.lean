import RecordRules.Json.Writer
import RecordRules.Number.Rounded
import RecordRules.Text.Case
import RecordRules.Text.Letter

/-!
# Templates

A template is a text with places to fill.  A place starts with `%` and ends with a letter that says
how its value is written; in between stand a name in parentheses, flags, a width and a precision,
all of them optional.  `%%` is a plain percent sign.

* `Place.read?` reads a place.
* `Template.fill?` fills the places, with values one after the other or with the values of a map by
  name.  It yields nothing if the values do not fit.
-/

set_option autoImplicit false

namespace RecordRules
namespace Template

/-- A number in a place: given there, or taken from the values. -/
inductive Amount where
  | fixed (n : Nat)
  | taken
deriving DecidableEq, Repr

/-- A place of a template. -/
structure Place where
  name : Option String := none
  flags : List Char := []
  width : Option Amount := none
  precision : Option Amount := none
  /-- Whether a mark for the size of numbers stands before the letter. -/
  sized : Bool := false
  letter : Char
deriving DecidableEq, Repr

/-- Splits a name off that stands in parentheses, which may hold parentheses. -/
def nameIn : Nat → List Char → Option (List Char × List Char)
  | _, [] => none
  | depth, c :: cs =>
    if c == ')' then
      match depth with
      | 0 => some ([], cs)
      | depth + 1 => (nameIn depth cs).map fun (name, rest) => (c :: name, rest)
    else
      (nameIn (if c == '(' then depth + 1 else depth) cs).map fun (name, rest) => (c :: name, rest)

/-- A number at the start of a text. -/
def amount? : List Char → Option Amount × List Char
  | '*' :: cs => (some .taken, cs)
  | cs =>
    let digits := cs.takeWhile Char.isDigit
    if digits.isEmpty then (none, cs)
    else (some (.fixed (Text.readDigits digits)), cs.drop digits.length)

/-- Reads what stands behind the name of a place. -/
def Place.readTail? (name : Option String) (cs : List Char) : Option (Place × List Char) :=
  let isFlag (c : Char) : Bool := ['-', '+', ' ', '#', '0'].contains c
  let flags := cs.takeWhile isFlag
  let (width, cs) := amount? (cs.dropWhile isFlag)
  let (precision, cs) := match cs with
    | '.' :: rest =>
      match amount? rest with
      | (none, rest) => (some (Amount.fixed 0), rest)
      | given => given
    | _ => (none, cs)
  let (sized, cs) := match cs with
    | c :: rest => if ['h', 'l', 'L'].contains c then (true, rest) else (false, cs)
    | [] => (false, cs)
  match cs with
  | letter :: rest => some ({ name, flags, width, precision, sized, letter }, rest)
  | [] => none

/-- Reads a place behind its percent sign, and yields the rest of the text. -/
def Place.read? : List Char → Option (Place × List Char)
  | '(' :: cs => do
    let (name, rest) ← nameIn 0 cs
    readTail? (some (String.ofList name)) rest
  | cs => readTail? none cs

/-! ## Values in places -/

/-- The text of a value as it stands in a place for texts. -/
def shown? (v : Value) : Option (List Char) :=
  if v.hasHugeInt then none else some v.shown.toList

/-- A text with what is not ASCII escaped. -/
def ascii (cs : List Char) : List Char :=
  cs.flatMap fun c => if c.toNat < 0x80 then [c] else Text.escapeCode c

/-- A number as a sign, a mark of its base, and the rest. -/
structure Digits where
  negative : Bool
  mark : List Char := []
  digits : List Char

/-- A whole number in a base, with at least so many digits. -/
def Digits.ofInt (base : Nat) (mark : List Char) (least : Nat) (n : Int) : Digits :=
  let digits := Nat.toDigits base n.natAbs
  { negative := n < 0, mark, digits := List.replicate (least - digits.length) '0' ++ digits }

/-- The whole number that a number holds, its fraction dropped. -/
def whole? : Value → Option Int
  | .int n => some n
  | .bool b => some (if b then 1 else 0)
  | v => v.double?.bind Double.truncate?

/-- The whole number that a value is. -/
def asInteger? : Value → Option Int
  | .int n => some n
  | .bool b => some (if b then 1 else 0)
  | _ => none

/-- The double that a number gives. -/
def number? (v : Value) : Option Float := v.double? <|> (asInteger? v).bind Double.ofInt?

/-- A double as digits, laid out for a letter. -/
def Digits.ofFloat (letter : Char) (precision : Nat) (alternative : Bool) (x : Float) : Digits :=
  let word (cs : List Char) : List Char := if letter.isUpper then cs.map Char.toUpper else cs
  match Double.parts? x with
  | none =>
    if x.isNaN then { negative := false, digits := word "nan".toList }
    else { negative := x < 0, digits := word "inf".toList }
  | some p =>
    let text := match letter.toLower with
      | 'f' => p.positional precision alternative
      | 'e' => p.scientific precision alternative
      | _ => p.general precision alternative
    { negative := p.negative, digits := word text }

/-- A number as digits, laid out for a letter. -/
def digits? (p : Place) (precision : Option Nat) (v : Value) : Option Digits :=
  let alternative := p.flags.contains '#'
  let least := precision.getD 0
  let based (base : Nat) (mark : String) (n : Int) : Digits :=
    Digits.ofInt base (if alternative then mark.toList else []) least n
  match p.letter with
  | 'd' | 'i' | 'u' =>
    (whole? v).bind fun n => if tooManyDigits n then none else some (Digits.ofInt 10 [] least n)
  | 'x' => (asInteger? v).map (based 16 "0x")
  | 'X' => (asInteger? v).map fun n =>
    let d := based 16 "0X" n
    { d with digits := d.digits.map Char.toUpper }
  | 'o' => (asInteger? v).map (based 8 "0o")
  | _ => (number? v).map (Digits.ofFloat p.letter (precision.getD 6) alternative)

/-- Fills a text up with blanks. -/
def aligned (p : Place) (width : Nat) (cs : List Char) : List Char :=
  let blanks := List.replicate (width - cs.length) ' '
  if p.flags.contains '-' then cs ++ blanks else blanks ++ cs

/-- Lays digits out: with a sign, and filled up with zeros or blanks. -/
def Digits.layOut (p : Place) (width : Nat) (d : Digits) : List Char :=
  let sign :=
    if d.negative then ['-']
    else if p.flags.contains '+' then ['+']
    else if p.flags.contains ' ' then [' ']
    else []
  let start := sign ++ d.mark
  if p.flags.contains '0' && !p.flags.contains '-' then
    start ++ List.replicate (width - start.length - d.digits.length) '0' ++ d.digits
  else aligned p width (start ++ d.digits)

/-- The letters of places for numbers. -/
def numberLetters : List Char := "diuoxXeEfFgG".toList

/-- The character that a value stands for: a text of one character, or its code point. -/
def char? : Value → Option Char
  | .text s =>
    match s.toList with
    | [c] => some c
    | _ => none
  | v => (asInteger? v).bind fun n =>
    if 0 ≤ n && n < 0x110000 && !(0xD800 ≤ n && n < 0xE000) then some (Char.ofNat n.toNat) else none

/-- The text of a value in a place. -/
def Place.text? (p : Place) (width : Nat) (precision : Option Nat) (v : Value) :
    Option (List Char) :=
  let cut (cs : List Char) : List Char := match precision with
    | some n => cs.take n
    | none => cs
  match p.letter with
  | 's' => (shown? v).map fun cs => aligned p width (cut cs)
  | 'r' => v.written?.map fun s => aligned p width (cut s.toList)
  | 'a' => v.written?.map fun s => aligned p width (cut (ascii s.toList))
  | 'c' => (char? v).map fun c => aligned p width [c]
  | letter =>
    if numberLetters.contains letter then (digits? p precision v).map (Digits.layOut p width)
    else none

/-! ## Filling -/

/-- What places are filled with. -/
inductive Source where
  /-- Values that are taken one after the other. -/
  | values (values : List Value)
  /-- The values of a map, by name; the map itself can be taken too, once. -/
  | entries (entries : Fields Value) (next : Option Value)

/-- The next value. -/
def Source.next? : Source → Option (Value × Source)
  | .values (v :: rest) => some (v, .values rest)
  | .values [] => none
  | .entries known (some v) => some (v, .entries known none)
  | .entries _ none => none

/-- Turns to the value of a name. -/
def Source.turn? (s : Source) (name : Option String) : Option Source :=
  match name, s with
  | none, s => some s
  | some _, .values _ => none
  | some name, .entries known _ => (known.get? name).map fun v => .entries known (some v)

/-- The largest width and precision. -/
def largestAmount : Nat := twoTo 31 - 1

/-- Takes a number for a place. -/
def Source.amount? (s : Source) : Option Amount → Option (Option Int × Source)
  | none => some (none, s)
  | some (.fixed n) => if n ≤ largestAmount then some (some n, s) else none
  | some .taken => do
    let (v, s) ← s.next?
    let n ← asInteger? v
    if n.natAbs ≤ largestAmount then some (some n, s) else none

/-- Fills a place. -/
def Place.fill? (p : Place) (s : Source) : Option (List Char × Source) := do
  let s ← s.turn? p.name
  let (width, s) ← s.amount? p.width
  let (precision, s) ← s.amount? p.precision
  let (v, s) ← s.next?
  let leftAligned : Place := { p with flags := '-' :: p.flags }
  let w := width.getD 0
  let text ← (if w < 0 then leftAligned else p).text? w.natAbs (precision.map Int.toNat) v
  return (text, s)

/-- Fills the places of a text, at most so many. -/
def fillFrom : Nat → Source → List Char → Option (List Char)
  | 0, _, _ => none
  | _, .values (_ :: _), [] => none
  | _, _, [] => some []
  | steps + 1, s, '%' :: '%' :: cs => (fillFrom steps s cs).map ('%' :: ·)
  | steps + 1, s, '%' :: cs => do
    let (p, rest) ← Place.read? cs
    let (text, s) ← p.fill? s
    return text ++ (← fillFrom steps s rest)
  | steps + 1, s, c :: cs => (fillFrom steps s cs).map (c :: ·)

/-- Fills the places of a text.  A single map that is not empty gives its values by name. -/
def fill? (template : String) (values : List Value) : Option String :=
  let source := match values with
    | [.map entries] =>
      if entries.isEmpty then .values values else .entries entries (some (.map entries))
    | _ => .values values
  (fillFrom (template.length + 1) source template.toList).map String.ofList

/-! ## Names -/

/-- What follows an amount that may stand at the start of a text: a star or digits. -/
def afterAmount : List Char → List Char
  | '*' :: cs => cs
  | cs => cs.dropWhile Text.isDigit

/-- Whether a text, which follows a percent sign, names something: a word in parentheses, and then
a letter that can end a place, in either case.  Flags and amounts can precede the letter. -/
def startsNamed : List Char → Bool
  | '(' :: cs =>
    match cs.span Text.isWordChar with
    | (_ :: _, ')' :: rest) =>
      let rest := afterAmount (rest.dropWhile ("#0+ -".toList).contains)
      let rest := match rest with
        | '.' :: precision => if (afterAmount precision).length < precision.length then
            afterAmount precision else rest
        | _ => rest
      rest.head?.any fun c => ("diouxefgcrsa%".toList).any (Text.sameLetter c)
    | _ => false
  | _ => false

/-- Whether some place of a text names something. -/
def hasNamedPlace : List Char → Bool
  | [] => false
  | c :: cs => (c == '%' && startsNamed cs) || hasNamedPlace cs

end Template
end RecordRules
