import RecordRules.Text.Surrogate

/-!
# Encodings of JSON

A text in JSON begins with a character of ASCII, so its first four bytes tell in which of three
encodings it is: units of 8, 16 or 32 bits, the wider ones with either end first.

`Encoding.ofBytes` is the encoding of a text, and `Encoding.text?` reads bytes in one of the wider
encodings.
-/

set_option autoImplicit false

namespace RecordRules
namespace Json

/-- How a text is encoded. -/
inductive Encoding where
  | bytes
  | pairs (bigEndFirst : Bool)
  | quads (bigEndFirst : Bool)
deriving DecidableEq, Repr

namespace Encoding

/-- The encoding of a text with the given bytes. -/
def ofBytes : List Nat → Encoding
  | a :: b :: c :: d :: _ =>
    if a == 0 then (if b == 0 then .quads true else .pairs true)
    else if b == 0 then (if c == 0 && d == 0 then .quads false else .pairs false)
    else .bytes
  | [a, b] => if a == 0 then .pairs true else if b == 0 then .pairs false else .bytes
  | _ => .bytes

/-- A number of bytes in order. -/
def number (bigEndFirst : Bool) (bytes : List Nat) : Nat :=
  (if bigEndFirst then bytes else bytes.reverse).foldl (fun n byte => n * 256 + byte) 0

/-- The units of two bytes; there has to be an even number of them. -/
def units? (bigEndFirst : Bool) : List Nat → Option (List Nat)
  | [] => some []
  | a :: b :: rest => (units? bigEndFirst rest).map (number bigEndFirst [a, b] :: ·)
  | [_] => none

/-- The characters of four bytes each. -/
def chars? (bigEndFirst : Bool) : List Nat → Option (List Char)
  | [] => some []
  | a :: b :: c :: d :: rest =>
    let n := number bigEndFirst [a, b, c, d]
    if n < 0x110000 then (chars? bigEndFirst rest).map (Text.ofUnit n :: ·) else none
  | _ => none

/-- The text that bytes in one of the wider encodings hold. -/
def text? (e : Encoding) (bytes : List Nat) : Option String :=
  match e with
  | .bytes => none
  | .pairs bigEndFirst => (units? bigEndFirst bytes).map fun us => String.ofList (Text.ofUnits us)
  | .quads bigEndFirst => (chars? bigEndFirst bytes).map String.ofList

end Encoding

/-- The text that the bytes of another text hold, if they are read as JSON is. -/
def decoded? (text : String) : Option String :=
  let bytes (t : ByteArray) : List Nat := t.toList.map UInt8.toNat
  let all := text.toUTF8
  match Encoding.ofBytes (bytes (all.extract 0 4)) with
  | .bytes => some text
  | encoding => encoding.text? (bytes all)

end Json
end RecordRules
