import RecordRules.Value.Coercion

/-!
# Writing JSON

`Json.encode` is the text of a value: `", "` between items, `": "` between a name and its value,
everything outside printable ASCII escaped by UTF-16 units, and doubles by their shortest decimal.
A tuple is written as a list.  Dates have no JSON form; they are written as texts.

The order of map entries is the caller's choice: as they stand, or sorted by name.
-/

set_option autoImplicit false

namespace RecordRules
namespace Json

/-- How the entries of a map are ordered. -/
inductive EntryOrder where
  | asGiven
  | byName
deriving DecidableEq, Repr

/-- An escape of one UTF-16 unit. -/
def escapeUnit (n : Nat) : List Char := '\\' :: 'u' :: Text.hexDigits 4 n

/-- A character beyond printable ASCII, or half of one, by its UTF-16 units. -/
def escapeChar (c : Char) : List Char :=
  let n := (Text.half? c).getD c.toNat
  if n < 0x10000 then escapeUnit n
  else escapeUnit (0xD800 + (n - 0x10000) / 0x400) ++ escapeUnit (0xDC00 + (n - 0x10000) % 0x400)

/-- A character of a text. -/
def encodeChar (c : Char) : List Char :=
  if c == '"' then ['\\', '"']
  else if c == '\\' then ['\\', '\\']
  else if c == '\n' then ['\\', 'n']
  else if c == '\r' then ['\\', 'r']
  else if c == '\t' then ['\\', 't']
  else if c == Char.ofNat 8 then ['\\', 'b']
  else if c == Char.ofNat 12 then ['\\', 'f']
  else if ' ' ≤ c && c ≤ '~' then [c]
  else escapeChar c

/-- A text in quotes. -/
def encodeText (s : String) : List Char := '"' :: s.toList.flatMap encodeChar ++ ['"']

/-- A double; the words for infinity and not-a-number are written as they are. -/
def encodeFloat (x : Float) : List Char :=
  if x.isNaN then "NaN".toList
  else if x.isInf then (if x < 0 then "-Infinity" else "Infinity").toList
  else (Double.written x).toList

/-- Encoded items one after the other. -/
def commaSeparated : List (List Char) → List Char
  | [] => []
  | [item] => item
  | item :: rest => item ++ ',' :: ' ' :: commaSeparated rest

/-- Encoded map entries, in the chosen order. -/
def encodeEntryTexts (order : EntryOrder) (entries : List (String × List Char)) : List Char :=
  let ordered := match order with
    | .asGiven => entries
    | .byName => Fields.sorted entries
  '\x7b' :: commaSeparated (ordered.map fun (name, text) => encodeText name ++ ':' :: ' ' :: text)
    ++ ['\x7d']

mutual

/-- The JSON text of a value. -/
def encode (order : EntryOrder) : Value → List Char
  | .null => "null".toList
  | .bool b => (if b then "true" else "false").toList
  | .int n => (toString n).toList
  | .float x => encodeFloat x
  | .nan _ => "NaN".toList
  | .text s => encodeText s
  | .list items => '[' :: commaSeparated (encodeItems order items) ++ [']']
  | .tuple items => '[' :: commaSeparated (encodeItems order items) ++ [']']
  | .map entries => encodeEntryTexts order (encodeEntries order entries)
  | .date day => encodeText day
  | .moment time => encodeText time.spaced

/-- The JSON texts of items. -/
def encodeItems (order : EntryOrder) : List Value → List (List Char)
  | [] => []
  | v :: rest => encode order v :: encodeItems order rest

/-- The JSON texts of entries, under their names. -/
def encodeEntries (order : EntryOrder) : List (String × Value) → List (String × List Char)
  | [] => []
  | (name, v) :: rest => (name, encode order v) :: encodeEntries order rest

end

/-- The JSON text of a value, unless it holds an integer too long to be written. -/
def encode? (order : EntryOrder) (v : Value) : Except ValueError String :=
  if v.hasHugeInt then .error .integerTextTooLong else .ok (String.ofList (encode order v))

end Json
end RecordRules
