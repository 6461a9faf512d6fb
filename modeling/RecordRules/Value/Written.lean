import RecordRules.Value.Basic
import RecordRules.Number.Shortest
import RecordRules.Text.Quoted

/-!
# Values in messages

`Value.written?` is the text of a value inside a message: lists in brackets, maps in braces with
their entries in order, texts in quotes, doubles by their shortest decimal.

An integer of more than `digitLimit` digits has no text, and neither has a value that holds one.
-/

set_option autoImplicit false

namespace RecordRules

/-- Whether an integer has too many digits to be written. -/
def tooManyDigits (n : Int) : Bool := decide (tenTo digitLimit ≤ n.natAbs)

namespace Value

mutual

/-- Whether a value holds an integer with too many digits to be written. -/
def hasHugeInt : Value → Bool
  | .int n => tooManyDigits n
  | .list items => hasHugeItem items
  | .tuple items => hasHugeItem items
  | .map entries => hasHugeEntry entries
  | _ => false

/-- Whether one of the items holds an integer with too many digits. -/
def hasHugeItem : List Value → Bool
  | [] => false
  | v :: rest => hasHugeInt v || hasHugeItem rest

/-- Whether one of the entries holds an integer with too many digits. -/
def hasHugeEntry : List (String × Value) → Bool
  | [] => false
  | (_, v) :: rest => hasHugeInt v || hasHugeEntry rest

end

/-- The parts of a `YYYY-MM-DD` day, without leading zeros. -/
def calendarParts (s : String) : List String :=
  (s.split fun c => c == '-').toList.map fun part =>
    let digits := part.toString.toList.dropWhile (· == '0')
    if digits.isEmpty then "0" else String.ofList digits

/-- How far a time is ahead, as the call that makes it: whole days, and seconds within a day. -/
def writtenOffset (ahead : Int) : String :=
  if ahead == 0 then "datetime.timezone.utc"
  else
    let days := ahead.ediv 86400
    let seconds := ahead.emod 86400
    let parts := (if days == 0 then [] else [s!"days={days}"]) ++
      (if seconds == 0 then [] else [s!"seconds={seconds}"])
    "datetime.timezone(datetime.timedelta(" ++ String.intercalate ", " parts ++ "))"

/-- A moment as the call that makes it; seconds and smaller units stand only if they are not
zero. -/
def writtenMoment (m : Moment) : String :=
  let units := [m.day.year, m.day.month, m.day.day, m.hour, m.minute] ++
    (if m.second == 0 && m.microsecond == 0 then [] else [m.second]) ++
    (if m.microsecond == 0 then [] else [m.microsecond])
  let zone := match m.ahead with
    | some ahead => ["tzinfo=" ++ writtenOffset ahead]
    | none => []
  "datetime.datetime(" ++ String.intercalate ", " (units.map toString ++ zone) ++ ")"

mutual

/-- The text of a value inside a message. -/
def written : Value → String
  | .null => "None"
  | .bool b => if b then "True" else "False"
  | .int n => toString n
  | .float x => Double.written x
  | .nan _ => "nan"
  | .text s => Text.quoted s
  | .list items => "[" ++ String.intercalate ", " (writtenItems items) ++ "]"
  | .tuple [item] => "(" ++ written item ++ ",)"
  | .tuple items => "(" ++ String.intercalate ", " (writtenItems items) ++ ")"
  | .map entries => "\x7b" ++ String.intercalate ", " (writtenEntries entries) ++ "\x7d"
  | .date day => "datetime.date(" ++ String.intercalate ", " (calendarParts day) ++ ")"
  | .moment time => writtenMoment time

/-- The texts of the items of a list. -/
def writtenItems : List Value → List String
  | [] => []
  | v :: rest => written v :: writtenItems rest

/-- The texts of the entries of a map. -/
def writtenEntries : List (String × Value) → List String
  | [] => []
  | (name, v) :: rest => (Text.quoted name ++ ": " ++ written v) :: writtenEntries rest

end

/-- The text of a value on its own: a text and a day as they are, anything else as inside a
message. -/
def shown : Value → String
  | .text s => s
  | .date day => day
  | .moment time => time.spaced
  | v => v.written

/-- The text of a value inside a message, unless it holds an integer too long to be written. -/
def written? (v : Value) : Option String := if v.hasHugeInt then none else some v.written

end Value
end RecordRules
