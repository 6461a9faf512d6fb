import RecordRules.Text.Digit
import RecordRules.Text.Split

/-!
# Text in addresses

An address holds a byte that has no place in it as `%` and two hexadecimal digits.

* `utf8` reads bytes as text.  What is no UTF-8 is replaced: every byte that cannot start or go on
  with a character, and every beginning of a character that is cut off, becomes one `U+FFFD`.
* `unescaped` undoes the escapes of a text, and `escaped` makes them.
* `queryFields` reads the part of an address after the question mark as names and values.
-/

set_option autoImplicit false

namespace RecordRules
namespace Text

/-- What stands for bytes that are no text. -/
def replacement : Char := Char.ofNat 0xFFFD

/-- A character of which some bytes have been read. -/
structure Unfinished where
  /-- The bits read so far. -/
  bits : Nat
  /-- How many bytes are missing. -/
  missing : Nat
  /-- The least and greatest next byte. -/
  least : Nat := 0x80
  greatest : Nat := 0xBF

/-- The character that a byte starts: complete, unfinished or none. -/
def startChar (byte : Nat) : Char ⊕ Option Unfinished :=
  if byte < 0x80 then .inl (Char.ofNat byte)
  else if byte < 0xC2 then .inr none
  else if byte < 0xE0 then .inr (some ⟨byte - 0xC0, 1, 0x80, 0xBF⟩)
  else if byte < 0xF0 then
    .inr (some ⟨byte - 0xE0, 2, if byte = 0xE0 then 0xA0 else 0x80,
      if byte = 0xED then 0x9F else 0xBF⟩)
  else if byte < 0xF5 then
    .inr (some ⟨byte - 0xF0, 3, if byte = 0xF0 then 0x90 else 0x80,
      if byte = 0xF4 then 0x8F else 0xBF⟩)
  else .inr none

/-- Reads a byte where a character starts: the characters that are complete by then, and the one
that is unfinished. -/
def readStart (byte : Nat) : List Char × Option Unfinished :=
  match startChar byte with
  | .inl c => ([c], none)
  | .inr (some u) => ([], some u)
  | .inr none => ([replacement], none)

/-- Reads the next byte: the characters that are complete by then, and the one that is
unfinished. -/
def readByte (byte : Nat) : Option Unfinished → List Char × Option Unfinished
  | none => readStart byte
  | some u =>
    if u.least ≤ byte && byte ≤ u.greatest then
      let bits := u.bits * 0x40 + (byte - 0x80)
      if u.missing ≤ 1 then ([Char.ofNat bits], none)
      else ([], some ⟨bits, u.missing - 1, 0x80, 0xBF⟩)
    else
      let (chars, next) := readStart byte
      (replacement :: chars, next)

/-- Reads bytes behind an unfinished character. -/
def utf8From : Option Unfinished → List Nat → List Char
  | none, [] => []
  | some _, [] => [replacement]
  | u, byte :: rest =>
    let (chars, next) := readByte byte u
    chars ++ utf8From next rest

/-- Reads bytes as text. -/
def utf8 (bytes : List Nat) : List Char := utf8From none bytes

/-- Undoes the escapes of a text; the bytes of the escapes just before are given in reverse. -/
def unescapedFrom : List Nat → List Char → List Char
  | bytes, '%' :: a :: b :: rest =>
    match hexValue? a, hexValue? b with
    | some high, some low => unescapedFrom ((high * 16 + low) :: bytes) rest
    | _, _ => utf8 bytes.reverse ++ '%' :: unescapedFrom [] (a :: b :: rest)
  | bytes, c :: rest => utf8 bytes.reverse ++ c :: unescapedFrom [] rest
  | bytes, [] => utf8 bytes.reverse
termination_by _ cs => cs.length

/-- Undoes the escapes of a text. -/
def unescaped (cs : List Char) : List Char := unescapedFrom [] cs

/-- The bytes of a character. -/
def bytesOf (c : Char) : List Nat := (String.singleton c).toUTF8.toList.map UInt8.toNat

/-- An escape of a byte. -/
def byteEscape (byte : Nat) : List Char :=
  '%' :: (Nat.toDigits 16 (byte / 16) ++ Nat.toDigits 16 (byte % 16)).map Char.toUpper

/-- A text with everything escaped but the letters and digits of ASCII, four marks, and what is
called safe. -/
def escaped (safe cs : List Char) : List Char :=
  cs.flatMap fun c =>
    if c.isAlphanum || ['_', '.', '-', '~'].contains c || safe.contains c then [c]
    else (bytesOf c).flatMap byteEscape

/-- A name or value of a query, in which a plus stands for a space. -/
def queryText (cs : List Char) : String :=
  String.ofList (unescaped (cs.map fun c => if c == '+' then ' ' else c))

/-- The names and values of a query, in order. -/
def queryFields (cs : List Char) : List (String × String) :=
  ((pieces ['&'] cs).filter fun piece => !piece.isEmpty).map fun piece =>
    match cut? ['='] piece with
    | some (name, value) => (queryText name, queryText value)
    | none => (queryText piece, "")

end Text
end RecordRules
