import RecordRules.Number.Double
import RecordRules.Number.Reading

/-!
# Whole numbers in data from outside

Data from outside writes a whole number as a text: `7`, `+7`, `007`, `7.0`, `7_000`.
`Whole.read` reads it in four steps, each on the text that the one before leaves:

* `unsigned?` drops the white space around it and a plus;
* `withoutZeros?` drops leading zeros;
* `withoutFraction` drops a fraction of zeros, and `withoutUnderscores` single underscores;
* `signed` reads what is left, a minus or none and digits.

`Whole.ofDouble` is the whole number that a double of data from outside gives.
-/

set_option autoImplicit false

namespace RecordRules
namespace Whole

/-- What keeps data from being a whole number. -/
inductive Flaw where
  /-- It is no whole number. -/
  | form
  /-- It has too many digits, or is too large for a double to be exact about it. -/
  | size
  /-- It is a number with a fraction. -/
  | fraction
  /-- It is infinite, or no number. -/
  | notFinite
deriving DecidableEq, Repr

/-- Whether a character is a digit other than zero. -/
def isLeading (c : Char) : Bool := '1' ≤ c && c ≤ '9'

/-- A text without the white space around it and without a plus, which no minus may follow. -/
def unsigned? (cs : List Char) : Option (List Char) :=
  match Text.withoutSpace cs with
  | '+' :: '-' :: _ => none
  | '+' :: rest => some rest
  | rest => some rest

/-- What follows zeros and underscores: a number that begins with another digit or a minus, or a
fraction, or nothing.  The character before a fraction or the end is kept. -/
def afterZeros? (previous : Char) : List Char → Option (List Char)
  | [] => some [previous]
  | c :: cs =>
    if c == '0' || c == '_' then afterZeros? c cs
    else if isLeading c || c == '-' then some (c :: cs)
    else if c == '.' then some (previous :: c :: cs)
    else none

/-- A number without its leading zeros. -/
def withoutZeros? : List Char → Option (List Char)
  | [] => none
  | c :: cs =>
    if c == '0' then afterZeros? c cs
    else if isLeading c || c == '-' then some (c :: cs)
    else none

/-- A number without a fraction that has zeros only. -/
def withoutFraction (cs : List Char) : List Char :=
  match cs.span (· != '.') with
  | (whole, _ :: fraction) =>
    if !fraction.isEmpty && fraction.all (· == '0') then whole else cs
  | _ => cs

/-- Whether two underscores stand side by side. -/
def hasDoubleUnderscore : List Char → Bool
  | '_' :: '_' :: _ => true
  | _ :: cs => hasDoubleUnderscore cs
  | [] => false

/-- A number without its underscores, unless one of them is at an end or beside another. -/
def withoutUnderscores (cs : List Char) : List Char :=
  if cs.head? == some '_' || cs.getLast? == some '_' || hasDoubleUnderscore cs then cs
  else cs.filter (· != '_')

/-- Reads digits that a minus may precede.  They have no leading zero, and the minus counts among
them where their number is limited. -/
def signed (cs : List Char) : Except Flaw Int :=
  let negative := cs.head? == some '-'
  let size := if negative then cs.drop 1 else cs
  let digits := size.takeWhile Char.isDigit
  if size.head? == some '0' then (if size == ['0'] then .ok 0 else .error .form)
  else if digitLimit < digits.length + (if negative then 1 else 0) then .error .size
  else if digits.isEmpty || digits.length < size.length then .error .form
  else
    let n : Int := Text.readDigits digits
    .ok (if negative then -n else n)

/-- Reads the text of a whole number. -/
def read (cs : List Char) : Except Flaw Int :=
  match unsigned? cs >>= withoutZeros? with
  | some number => signed (withoutUnderscores (withoutFraction number))
  | none => .error .form

/-- Whether an integer has at most 64 bits, one of them for the sign. -/
def fitsWord (n : Int) : Bool := -(twoTo 63 : Int) ≤ n && n < twoTo 63

/-- The whole number that a double is.  It lies strictly between the ends of the words of 64
bits. -/
def ofDouble (x : Float) : Except Flaw Int :=
  match Double.truncate? x with
  | none => .error .notFinite
  | some n =>
    if !Double.isWhole x then .error .fraction
    else if fitsWord n && n != -(twoTo 63 : Int) then .ok n
    else .error .size

end Whole
end RecordRules
