/-!
# Days and times

Days of the Gregorian calendar, and a `Clock` that knows one moment and steps from second to second.
-/

set_option autoImplicit false

namespace RecordRules

/-- Whether a year has a 29th of February. -/
def isLeapYear (year : Nat) : Bool := year % 4 == 0 && (year % 100 != 0 || year % 400 == 0)

/-- How many days a month has. -/
def daysIn (year month : Nat) : Nat :=
  if month == 2 then (if isLeapYear year then 29 else 28)
  else if [4, 6, 9, 11].contains month then 30 else 31

/-- A moment, to the second. -/
structure Clock where
  year : Nat := 2024
  month : Nat := 1
  day : Nat := 1
  hour : Nat := 12
  minute : Nat := 0
  second : Nat := 0
deriving DecidableEq, Repr, Inhabited

namespace Clock

/-- A number with as many digits as asked for. -/
def padded (width n : Nat) : String :=
  let digits := (toString n).toList
  String.ofList (List.replicate (width - digits.length) '0' ++ digits)

/-- The first instant of the next day. -/
def nextDay (c : Clock) : Clock :=
  if c.day < daysIn c.year c.month then ⟨c.year, c.month, c.day + 1, 0, 0, 0⟩
  else if c.month < 12 then ⟨c.year, c.month + 1, 1, 0, 0, 0⟩
  else ⟨c.year + 1, 1, 1, 0, 0, 0⟩

/-- One second later. -/
def next (c : Clock) : Clock :=
  if c.second < 59 then { c with second := c.second + 1 }
  else if c.minute < 59 then { c with minute := c.minute + 1, second := 0 }
  else if c.hour < 23 then { c with hour := c.hour + 1, minute := 0, second := 0 }
  else c.nextDay

end Clock
end RecordRules
