import RecordRules.Text.Digit
import RecordRules.Text.Name.Alphabets
import RecordRules.Text.Name.Cuneiform
import RecordRules.Text.Name.EastAsian
import RecordRules.Text.Name.Formulas
import RecordRules.Text.Name.Hieroglyphs
import RecordRules.Text.Name.Historic
import RecordRules.Text.Name.Indic
import RecordRules.Text.Name.Others
import RecordRules.Text.Name.Pictographs
import RecordRules.Text.Name.Siniform
import RecordRules.Text.Name.Symbols

/-!
# Characters by name

`ofName?` is the character that has a name.  Most names stand in tables; these are found whatever
the case of their letters.  Three kinds of names follow from the code point:

* Hangul syllables are named by their sounds (`hangul?`), Chinese characters by their code points
  (`ideograph?`); both in capitals only.
* A few further scripts name their characters by their code points too (`coded?`), and the
  variation selectors have numbered short names (`selector?`).
-/

set_option autoImplicit false

namespace RecordRules
namespace Text

/-- What is left of a text after the given beginning. -/
def after? : List Char → List Char → Option (List Char)
  | [], cs => some cs
  | p :: ps, c :: cs => if p == c then after? ps cs else none
  | _ :: _, [] => none

/-- The number that hexadecimal digits in capitals write. -/
def capitalHex? (cs : List Char) : Option Nat :=
  if cs.isEmpty || cs.any Char.isLower then none
  else (cs.mapM hexValue?).map fun ds => ds.foldl (fun n d => n * 16 + d) 0

/-! ## Names by sound -/

/-- The names of the initial sounds of Hangul syllables. -/
def initialSounds : List String :=
  ["G", "GG", "N", "D", "DD", "R", "M", "B", "BB", "S", "SS", "", "J", "JJ", "C", "K", "T", "P",
    "H"]

/-- The names of the medial sounds of Hangul syllables. -/
def medialSounds : List String :=
  ["A", "AE", "YA", "YAE", "EO", "E", "YEO", "YE", "O", "WA", "WAE", "OE", "YO", "U", "WEO", "WE",
    "WI", "YU", "EU", "YI", "I"]

/-- The names of the final sounds of Hangul syllables. -/
def finalSounds : List String :=
  ["", "G", "GG", "GS", "N", "NJ", "NH", "D", "L", "LG", "LM", "LB", "LS", "LT", "LP", "LH", "M",
    "B", "BS", "S", "SS", "NG", "J", "C", "K", "T", "P", "H"]

/-- The longest of the sounds that a text starts with: its index, and the rest of the text. -/
def longestSound? (sounds : List String) (cs : List Char) : Option (Nat × List Char) :=
  let found := sounds.zipIdx.filterMap fun (sound, i) =>
    (after? sound.toList cs).map fun rest => (i, rest)
  found.foldl
    (fun best next =>
      match best with
      | none => some next
      | some b => if next.2.length < b.2.length then some next else best)
    none

/-- The Hangul syllable with the given sounds. -/
def hangul? (sounds : List Char) : Option Nat := do
  let (initial, rest) ← longestSound? initialSounds sounds
  let (medial, rest) ← longestSound? medialSounds rest
  let (final, rest) ← longestSound? finalSounds rest
  if rest.isEmpty then some (0xAC00 + (initial * 21 + medial) * 28 + final) else none

/-! ## Names by code point -/

/-- The code points of the Chinese characters that have no other name. -/
def ideographRanges : List (Nat × Nat) := [
  (0x3400, 0x4DBF), (0x4E00, 0x9FFF), (0x20000, 0x2A6DF), (0x2A700, 0x2B738), (0x2B740, 0x2B81D),
  (0x2B820, 0x2CEA1), (0x2CEB0, 0x2EBE0), (0x30000, 0x3134A)]

/-- The Chinese character with the given code point, of four or five digits. -/
def ideograph? (digits : List Char) : Option Nat := do
  let n ← capitalHex? digits
  if (digits.length == 4 || digits.length == 5) &&
      ideographRanges.any (fun (low, high) => low ≤ n && n ≤ high) then some n
  else none

/-- Other characters that are named by their code points. -/
def codedRanges : List (String × Nat × Nat) := [
  ("CJK COMPATIBILITY IDEOGRAPH-", 0xF900, 0xFA6D),
  ("CJK COMPATIBILITY IDEOGRAPH-", 0xFA70, 0xFAD9),
  ("CJK COMPATIBILITY IDEOGRAPH-", 0x2F800, 0x2FA1D),
  ("KHITAN SMALL SCRIPT CHARACTER-", 0x18B00, 0x18CD5),
  ("NUSHU CHARACTER-", 0x1B170, 0x1B2FB)]

/-- The character of a script in `codedRanges` with the given name. -/
def coded? (name : List Char) : Option Nat :=
  codedRanges.findSome? fun (start, low, high) => do
    let digits ← after? start.toList name
    let n ← capitalHex? digits
    if digits.head? != some '0' && low ≤ n && n ≤ high then some n else none

/-- The variation selector with the given short name, `VS1` to `VS256`. -/
def selector? (name : List Char) : Option Nat := do
  let digits ← after? "VS".toList name
  if digits.isEmpty || !digits.all Char.isDigit || digits.head? == some '0' then none
  else
    let n := readDigits digits
    if n ≤ 16 then some (0xFE00 + (n - 1))
    else if n ≤ 256 then some (0xE0100 + (n - 17))
    else none

/-! ## Names in tables -/

/-- The place of a text among the texts that bars divide. -/
def placeAmong? (name : List Char) (cs : List Char) (place : Nat) : Option Nat :=
  let rest := cs.dropWhile (· != '|')
  if cs.takeWhile (· != '|') == name then some place
  else
    match h : rest with
    | [] => none
    | _ :: more => placeAmong? name more (place + 1)
termination_by cs.length
decreasing_by
  have hle : rest.length ≤ cs.length := (List.dropWhile_sublist _).length_le
  rw [h] at hle
  simp only [List.length_cons] at hle
  omega

/-- The code point that a line of a table gives for a name.  The line starts with a code point and
the beginning of a name; the ends of the names follow, for one code point after the other. -/
def inLine? (name line : List Char) : Option Nat := do
  let digits := line.takeWhile (· != ' ')
  let head := (line.drop (digits.length + 1)).takeWhile (· != '|')
  let ending ← after? head name
  let place ← placeAmong? ending (line.drop (digits.length + 1 + head.length + 1)) 0
  return (← capitalHex? digits) + place

/-- The code point that a table gives for a name. -/
def inTable? (name : List Char) (table : String) : Option Nat :=
  (table.splitOn "\n").findSome? fun line => inLine? name line.toList

/-- The code point of another name. -/
def otherName? (name : List Char) : Option Nat :=
  (otherNames.splitOn "\n").findSome? fun line =>
    let digits := line.toList.takeWhile (· != '|')
    if (placeAmong? name (line.toList.drop (digits.length + 1)) 0).isSome then capitalHex? digits
    else none

/-- The tables of names. -/
def nameTables : List String :=
  [alphabetNames, indicNames, symbolNames, eastAsianNames, historicNames, cuneiformNames,
    hieroglyphNames, siniformNames, formulaNames, pictographNames]

/-- The character that has a name. -/
def ofName? (name : String) : Option Char :=
  let cs := name.toList
  let code :=
    match after? "HANGUL SYLLABLE ".toList cs, after? "CJK UNIFIED IDEOGRAPH-".toList cs with
    | some sounds, _ => hangul? sounds
    | _, some digits => ideograph? digits
    | none, none =>
      let capitals := cs.map Char.toUpper
      otherName? capitals <|> coded? capitals <|> selector? capitals <|>
        nameTables.findSome? (inTable? capitals)
  code.map Char.ofNat

end Text
end RecordRules
