import RecordRules.Text.Blank
import RecordRules.Text.Digit

/-!
# Reading numbers

* `Double.read?` reads the decimal text of a double: a sign, digits with an optional point and
  exponent, single underscores between digits, and the words for infinity and not-a-number.
* `integerDigits?` reads the sign and the digits of an integer, with single underscores between
  them.
* `digitRun?` recognises a text made of digits alone.

Digits of every script count, and white space may stand around the number.  A decimal is rounded to
the nearest double; beyond the largest one it is infinite.
-/

set_option autoImplicit false

namespace RecordRules

/-- The most digits with which an integer is read or written. -/
def digitLimit : Nat := 4300

/-- The digits of a text that has nothing else, and at least one. -/
def digitRun? (cs : List Char) : Option (List Nat) :=
  if cs.isEmpty then none else cs.mapM Text.digitValue?

/-- The number written by digits in base ten. -/
def ofDigits (digits : List Nat) : Nat := digits.foldl (fun n d => n * 10 + d) 0

namespace Double

/-- A character of a number: digits of any script become those of ASCII, letters lower-case. -/
def normalChar (c : Char) : Char :=
  match Text.digitValue? c with
  | some d => Char.ofNat (0x30 + d)
  | none => c.toLower

/-- Drops single underscores between digits, and fails on any other underscore. -/
def dropUnderscores? : Option Char → List Char → Option (List Char)
  | previous, [] => if previous == some '_' then none else some []
  | previous, c :: cs =>
    if c == '_' then
      if (previous.map Char.isDigit).getD false then dropUnderscores? (some c) cs else none
    else if previous == some '_' && !c.isDigit then none
    else (dropUnderscores? (some c) cs).map (c :: ·)

/-- The sign of a number, and the rest. -/
def takeSign : List Char → Bool × List Char
  | '-' :: cs => (true, cs)
  | '+' :: cs => (false, cs)
  | cs => (false, cs)

/-- The exponent after the digits of a number: none, or a mark and a signed run of digits. -/
def exponent? : List Char → Option Int
  | [] => some 0
  | 'e' :: cs =>
    let (negative, digits) := takeSign cs
    (digitRun? digits).map fun ds => if negative then -(ofDigits ds : Int) else ofDigits ds
  | _ => none

/-- The double nearest to `digits * 10 ^ exponent`.  What is certain to be zero or infinite is not
computed. -/
def ofDecimal (digits : Nat) (exponent : Int) : Float :=
  if digits == 0 then 0.0
  else
    let magnitude := ((Nat.toDigits 10 digits).length : Int) + exponent
    if magnitude < -330 then 0.0
    else if 310 < magnitude then 1.0 / 0.0
    else Float.ofScientific digits (exponent < 0) exponent.natAbs

/-- An unsigned decimal: digits with an optional point, and an optional exponent. -/
def unsigned? (cs : List Char) : Option Float :=
  let whole := cs.takeWhile Char.isDigit
  let afterWhole := cs.dropWhile Char.isDigit
  let (fraction, rest) :=
    match afterWhole with
    | '.' :: more => (more.takeWhile Char.isDigit, more.dropWhile Char.isDigit)
    | more => ([], more)
  if whole.isEmpty && fraction.isEmpty then none
  else do
    let power ← exponent? rest
    some (ofDecimal (Text.readDigits (whole ++ fraction)) (power - fraction.length))

/-- Reads the text of a double. -/
def read? (cs : List Char) : Option Float := do
  let plain ← dropUnderscores? none ((Text.withoutSpace cs).map normalChar)
  let (negative, rest) := takeSign plain
  let size ←
    if rest == "inf".toList || rest == "infinity".toList then some (1.0 / 0.0)
    else if rest == "nan".toList then some (0.0 / 0.0)
    else unsigned? rest
  some (if negative then -size else size)

end Double

/-- The sign of an integer, which is negative or not, and its digits. -/
def integerDigits? (cs : List Char) : Option (Bool × List Char) := do
  let plain := (Text.withoutSpace cs).map Double.normalChar
  let (negative, size) := Double.takeSign plain
  let digits ← Double.dropUnderscores? none size
  if !digits.isEmpty && digits.all Char.isDigit then some (negative, digits) else none

end RecordRules
