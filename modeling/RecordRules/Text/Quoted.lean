import RecordRules.Text.Printable
import RecordRules.Text.Surrogate

/-!
# Quoted text

How a text is written inside a message: between single quotes, or between double quotes when it
holds a single one and no double one.  What is not printable is escaped by its code point.

`encodingProblem?` is the message about a text with half a character, which cannot be written as
bytes.
-/

set_option autoImplicit false

namespace RecordRules
namespace Text

/-- The lower-case hexadecimal digit of a number below sixteen. -/
def hexDigit (n : Nat) : Char := if n < 10 then Char.ofNat (0x30 + n) else Char.ofNat (0x57 + n)

/-- The last `width` hexadecimal digits of a number, the most significant first. -/
def hexDigits : Nat → Nat → List Char
  | 0, _ => []
  | width + 1, n => hexDigits width (n / 16) ++ [hexDigit (n % 16)]

/-- A character, or half of one, by its code point, in two, four or eight hexadecimal digits. -/
def escapeCode (c : Char) : List Char :=
  let n := (half? c).getD c.toNat
  if n < 0x100 then '\\' :: 'x' :: hexDigits 2 n
  else if n < 0x10000 then '\\' :: 'u' :: hexDigits 4 n
  else '\\' :: 'U' :: hexDigits 8 n

/-- A character between quotes of the given kind. -/
def quoteChar (quote c : Char) : List Char :=
  if c == quote || c == '\\' then ['\\', c]
  else if c == '\n' then ['\\', 'n']
  else if c == '\r' then ['\\', 'r']
  else if c == '\t' then ['\\', 't']
  else if isPrintable c then [c]
  else escapeCode c

/-- The quote around a text: a single one, unless the text holds that and no double one. -/
def quoteMark (cs : List Char) : Char :=
  if cs.contains '\'' && !cs.contains '"' then '"' else '\''

/-- A text between quotes, with its unprintable characters escaped. -/
def quoted (s : String) : String :=
  let cs := s.toList
  let mark := quoteMark cs
  String.ofList (mark :: cs.flatMap (quoteChar mark) ++ [mark])

/-- Why a text cannot be written as bytes: the first halves of characters in it that follow each
other, and where they are. -/
def encodingProblem? (s : String) : Option String :=
  let isHalf (c : Char) : Bool := (half? c).isSome
  let before := s.toList.takeWhile fun c => !isHalf c
  match s.toList.dropWhile fun c => !isHalf c with
  | [] => none
  | first :: rest =>
    let more := (rest.takeWhile isHalf).length
    let place :=
      if more = 0 then
        " '" ++ String.ofList (escapeCode first) ++ "' in position " ++ toString before.length
      else
        "s in position " ++ toString before.length ++ "-" ++ toString (before.length + more)
    some ("'utf-8' codec can't encode character" ++ place ++ ": surrogates not allowed")

end Text
end RecordRules
