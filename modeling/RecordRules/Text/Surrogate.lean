/-!
# Halves of characters

A character beyond the first 65536 code points takes two units of sixteen bits.  Data from outside
can hold one of them alone, which is no character.  `ofHalf` is the character that stands for such a
half, one of a range without characters of its own; `half?` is the half again.
-/

set_option autoImplicit false

namespace RecordRules
namespace Text

/-- The first half of a character, in order of the units. -/
def firstHalf : Nat := 0xD800

/-- How many halves there are. -/
def halfCount : Nat := 0x800

/-- The code point that stands for the first half. -/
def firstStandIn : Nat := 0xE1000

/-- Whether a unit is half a character. -/
def isHalf (unit : Nat) : Bool := firstHalf ≤ unit && unit < firstHalf + halfCount

/-- The character that stands for half a character. -/
def ofHalf (unit : Nat) : Char := Char.ofNat (firstStandIn + (unit - firstHalf))

/-- The character of a unit. -/
def ofUnit (unit : Nat) : Char := if isHalf unit then ofHalf unit else Char.ofNat unit

/-- The half that a character stands for. -/
def half? (c : Char) : Option Nat :=
  let n := c.toNat
  if firstStandIn ≤ n && n < firstStandIn + halfCount then some (n - firstStandIn + firstHalf)
  else none

/-- Whether a text holds half a character. -/
def hasHalf (s : String) : Bool := s.toList.any fun c => (half? c).isSome

/-- A text with three replacement characters for every half of a character. -/
def withoutHalves (s : String) : String :=
  String.ofList (s.toList.flatMap fun c =>
    if (half? c).isSome then List.replicate 3 (Char.ofNat 0xFFFD) else [c])

/-- Whether two units are the halves of one character. -/
def arePair (high low : Nat) : Bool :=
  0xD800 ≤ high && high < 0xDC00 && 0xDC00 ≤ low && low < 0xE000

/-- The character of two halves. -/
def ofPair (high low : Nat) : Char :=
  Char.ofNat (0x10000 + (high - 0xD800) * 0x400 + (low - 0xDC00))

/-- The characters of units. -/
def ofUnits : List Nat → List Char
  | [] => []
  | [unit] => [ofUnit unit]
  | high :: low :: rest =>
    if arePair high low then ofPair high low :: ofUnits rest
    else ofUnit high :: ofUnits (low :: rest)

end Text
end RecordRules
