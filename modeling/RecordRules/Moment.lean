import RecordRules.Calendar
import RecordRules.Number.Double
import RecordRules.Number.Reading

/-!
# Moments

A moment is a day and a time of day, and possibly how far that time is ahead of the one in
Greenwich.

* `Moment.read?` reads a moment from a text: `YYYY-MM-DDTHH:MM`, seconds with a fraction and an
  offset if need be, or a day alone, or a count of seconds.
* `Moment.ofSeconds?` and `Moment.ofNumber?` are the moments at a count of seconds since 1970.
  Counts that are too large for seconds are taken for milliseconds.
* `Moment.written` is the text of a moment, and `Moment.sent` the one that leaves for other
  programs.
* `Moment.same` compares moments: by the instant where both know how far they are ahead.
-/

set_option autoImplicit false

namespace RecordRules

/-- A day of the calendar. -/
structure Day where
  year : Nat
  month : Nat
  day : Nat
deriving DecidableEq, Repr, Inhabited

/-- A day and a time of day, with how many seconds the time is ahead if that is known. -/
structure Moment where
  day : Day
  hour : Nat := 0
  minute : Nat := 0
  second : Nat := 0
  microsecond : Nat := 0
  ahead : Option Int := none
deriving DecidableEq, Repr, Inhabited

namespace Day

/-- How many days lie between the first day of the count and the 1st of January 1970. -/
def daysBefore1970 : Nat := 865565

/-- The day so many days after the 1st of March 400 years before the year zero.  Years that begin in
March have their leap day at the end, which is what makes the count regular. -/
def ofCount (count : Nat) : Day :=
  let era := count / 146097
  let inEra := count % 146097
  let yearOfEra := (inEra - inEra / 1460 + inEra / 36524 - inEra / 146096) / 365
  let inYear := inEra - (365 * yearOfEra + yearOfEra / 4 - yearOfEra / 100)
  let march := (5 * inYear + 2) / 153
  let month := if march < 10 then march + 3 else march - 9
  { year := yearOfEra + era * 400 + (if month ≤ 2 then 1 else 0) - 400
    month
    day := inYear - (153 * march + 2) / 5 + 1 }

/-- How many days a day is after the 1st of March 400 years before the year zero. -/
def count (d : Day) : Nat :=
  let year := if d.month ≤ 2 then d.year + 399 else d.year + 400
  let march := if d.month ≤ 2 then d.month + 9 else d.month - 3
  365 * year + year / 4 - year / 100 + year / 400 + (153 * march + 2) / 5 + d.day - 1

/-- The day as `YYYY-MM-DD`. -/
def written (d : Day) : String :=
  Clock.padded 4 d.year ++ "-" ++ Clock.padded 2 d.month ++ "-" ++ Clock.padded 2 d.day

end Day

namespace Moment

/-! ## Writing -/

/-- How far a time is ahead, as hours and minutes. -/
def offsetText (ahead : Int) : String :=
  let minutes := ahead.natAbs / 60
  (if ahead < 0 then "-" else "+") ++ Clock.padded 2 (minutes / 60) ++ ":" ++
    Clock.padded 2 (minutes % 60)

/-- The day and the time, with a character between them and a fraction of six digits unless it is
zero. -/
def dayAndTime (mark : String) (m : Moment) : String :=
  m.day.written ++ mark ++ Clock.padded 2 m.hour ++ ":" ++ Clock.padded 2 m.minute ++ ":" ++
    Clock.padded 2 m.second ++
    (if m.microsecond = 0 then "" else "." ++ Clock.padded 6 m.microsecond)

/-- The moment as `YYYY-MM-DDTHH:MM:SS`, with the offset if it is known. -/
def written (m : Moment) : String := m.dayAndTime "T" ++ (m.ahead.map offsetText).getD ""

/-- The moment with a blank between day and time. -/
def spaced (m : Moment) : String := m.dayAndTime " " ++ (m.ahead.map offsetText).getD ""

/-- The moment as it leaves for other programs, which take `Z` for the time in Greenwich. -/
def sent (m : Moment) : String :=
  m.dayAndTime "T" ++
    match m.ahead with
    | none => ""
    | some 0 => "Z"
    | some ahead => offsetText ahead

/-- The moment without its offset. -/
def withoutOffset (m : Moment) : Moment := { m with ahead := none }

/-- The moment that a clock shows. -/
def ofClock (c : Clock) : Moment :=
  { day := ⟨c.year, c.month, c.day⟩, hour := c.hour, minute := c.minute, second := c.second }

/-! ## Counting -/

/-- The count of seconds up to which a number is one of seconds. -/
def greatestSeconds : Nat := 20000000000

/-- The first second of the year zero, and the last one of the year 9999. -/
def secondsRange : Int × Int := (-62167219200, 253402300799)

/-- The moment at so many seconds after the beginning of 1970, in Greenwich. -/
def atSecond? (seconds : Int) (microsecond : Nat) : Option Moment :=
  if seconds < secondsRange.1 || secondsRange.2 < seconds then none
  else
    let inDay := (seconds.emod 86400).toNat
    some
      { day := Day.ofCount (seconds.ediv 86400 + Day.daysBefore1970).toNat
        hour := inDay / 3600
        minute := inDay / 60 % 60
        second := inDay % 60
        microsecond
        ahead := some 0 }

/-- The moment at a count of seconds or milliseconds, and so many microseconds later. -/
def ofSeconds? (count : Int) (microseconds : Nat) : Option Moment :=
  let (seconds, inSecond) : Int × Nat :=
    if count.natAbs ≤ greatestSeconds then (count, 0)
    else (count.ediv 1000, (count.emod 1000).toNat * 1000)
  let total := microseconds + inSecond
  atSecond? (seconds + total / 1000000) (total % 1000000)

/-- The moment at a count that has a fraction, to the nearest microsecond. -/
def ofNumber? (x : Float) : Option Moment := do
  let seconds ← Double.truncate? x.floor
  let microseconds ← Double.truncate? ((x - x.floor) * 1000000.0).round
  ofSeconds? seconds microseconds.toNat

/-- How many microseconds a moment is after the beginning of the first day of the count, as the
clocks of its place show. -/
def localMicroseconds (m : Moment) : Int :=
  ((m.day.count * 86400 + m.hour * 3600 + m.minute * 60 + m.second) * 1000000 + m.microsecond : Nat)

/-- Whether a moment is in a year that records can hold: the first one is the year 1. -/
def isRecordable (m : Moment) : Bool := 1 ≤ m.day.year

/-- Whether two moments are the same: at one instant, or, if neither knows its offset, with the same
day and time. -/
def same (m n : Moment) : Bool :=
  match m.ahead, n.ahead with
  | none, none => m == n
  | some a, some b => m.localMicroseconds - a * 1000000 == n.localMicroseconds - b * 1000000
  | _, _ => false

/-! ## Reading -/

/-- Two digits at the start of a text as a number, and the rest. -/
def twoDigits? : List Char → Option (Nat × List Char)
  | a :: b :: rest =>
    if a.isDigit && b.isDigit then some (Text.readDigits [a, b], rest) else none
  | _ => none

/-- Digits at a fixed place of a text, as a number. -/
def digitsAt? (cs : List Char) (start count : Nat) : Option Nat :=
  let digits := (cs.drop start).take count
  if digits.length == count && digits.all Char.isDigit then some (Text.readDigits digits) else none

/-- A day `YYYY-MM-DD` that exists. -/
def readDay? (cs : List Char) : Option Day := do
  let year ← digitsAt? cs 0 4
  let month ← digitsAt? cs 5 2
  let day ← digitsAt? cs 8 2
  if cs.length == 10 && cs[4]? == some '-' && cs[7]? == some '-' && 1 ≤ month &&
      month ≤ 12 && 1 ≤ day && day ≤ daysIn year month then
    some ⟨year, month, day⟩
  else none

/-- The microseconds that the digits of a fraction write; what is smaller is dropped. -/
def readFraction (digits : List Char) : Nat :=
  Text.readDigits ((digits ++ List.replicate 6 '0').take 6)

/-- The seconds of a time with their fraction, and the rest; both can be missing. -/
def readSeconds? : List Char → Option (Nat × Nat × List Char)
  | ':' :: cs => do
    let (second, rest) ← twoDigits? cs
    if 59 < second then none
    else
      match rest with
      | mark :: more =>
        if mark == '.' || mark == ',' then
          let digits := more.takeWhile Char.isDigit
          if digits.isEmpty then none
          else some (second, readFraction digits, more.dropWhile Char.isDigit)
        else some (second, 0, rest)
      | [] => some (second, 0, [])
  | cs => some (0, 0, cs)

/-- How far a time is ahead: nothing, `Z`, or a sign with hours and minutes. -/
def readOffset? : List Char → Option (Option Int)
  | [] => some none
  | ['Z'] | ['z'] => some (some 0)
  | sign :: cs => do
    let negative := sign == '-' || sign == '\u2212'
    if !(negative || sign == '+') then none
    else
      let (hours, rest) ← twoDigits? cs
      let (minutes, rest) ← twoDigits? (if rest.head? == some ':' then rest.drop 1 else rest)
      if !rest.isEmpty || 59 < minutes || 23 < hours then none
      else
        let size : Int := (hours * 60 + minutes) * 60
        some (some (if negative then -size else size))

/-- The moment that a time gives on a day. -/
def readTime? (day : Day) (cs : List Char) : Option Moment := do
  let (hour, rest) ← twoDigits? cs
  let (minute, rest) ← twoDigits? (if rest.head? == some ':' then rest.drop 1 else [])
  let (second, microsecond, rest) ← readSeconds? rest
  let ahead ← readOffset? rest
  if 23 < hour || 59 < minute then none
  else some { day, hour, minute, second, microsecond, ahead }

/-- A moment written as a day and a time, or as a day alone for its first instant. -/
def readCalendar? (cs : List Char) : Option Moment := do
  let day ← readDay? (cs.take 10)
  match cs.drop 10 with
  | [] => some { day }
  | mark :: time => if ['T', 't', ' ', '_'].contains mark then readTime? day time else none

/-- A count with a fraction, in which what is too large for seconds is taken for milliseconds. -/
def ofCount? (x : Float) : Option Moment :=
  ofNumber? (if Float.ofNat greatestSeconds < x.abs then x / 1000.0 else x)

/-- A moment written as a count of seconds.  An exponent may only stand behind a point. -/
def readCount? (cs : List Char) : Option Moment :=
  let (negative, size) := Double.takeSign cs
  let whole := size.takeWhile Char.isDigit
  match size.dropWhile Char.isDigit with
  | [] =>
    if whole.isEmpty then none
    else
      let n : Int := Text.readDigits whole
      ofSeconds? (if negative then -n else n) 0
  | '.' :: _ =>
    if size.all fun c => c.toNat < 0x80 then
      (Double.unsigned? (size.map Char.toLower)).bind fun x => ofCount? (if negative then -x else x)
    else none
  | _ => none

/-- A moment that a text writes. -/
def read? (text : String) : Option Moment := readCalendar? text.toList <|> readCount? text.toList

end Moment
end RecordRules
