import RecordRules.Number.Double

/-!
# Shortest decimals

The decimal text of a double has the fewest digits that read back as that double, and of those
the digits nearest to it.  `shortest` works on the mantissa and exponent in exact arithmetic: for
one digit, two digits and so on it tries the two neighbours of the double on the grid of decimals
with so many digits, until one of them lies in the interval that rounds to the double.

`Double.written` lays the digits out: positionally between `0.0001` and `10 ^ 16`, and with an
exponent of at least two digits outside.
-/

set_option autoImplicit false

namespace RecordRules
namespace Double

/-- Decimal digits as a number, times a power of ten. -/
structure Decimal where
  digits : Nat
  exponent : Int
deriving DecidableEq, Repr

/-- The positive fraction `numerator / denominator`, and how far away a number may lie and still
round to it: down to `low / denominator`, up to `high / denominator`, ends included if `closed`. -/
structure Interval where
  numerator : Nat
  low : Nat
  high : Nat
  denominator : Nat
  closed : Bool
deriving Repr

/-- The numbers that round to a positive finite double.  The double below is only half as far
away where the mantissa is the smallest of its exponent. -/
def Parts.interval (p : Parts) : Interval :=
  let scale := twoTo p.exponent.toNat
  let below := if p.mantissa == twoTo 52 && p.exponent != -1074 then 1 else 2
  ⟨4 * p.mantissa * scale, (4 * p.mantissa - below) * scale, (4 * p.mantissa + 2) * scale,
    4 * twoTo (-p.exponent).toNat, p.mantissa % 2 == 0⟩

/-- Whether `digits * 10 ^ exponent` rounds to the double of the interval. -/
def Interval.contains (i : Interval) (d : Decimal) : Bool :=
  let value := d.digits * tenTo d.exponent.toNat * i.denominator
  let scale := tenTo (-d.exponent).toNat
  if i.closed then i.low * scale ≤ value && value ≤ i.high * scale
  else i.low * scale < value && value < i.high * scale

/-- How far `digits * 10 ^ exponent` is from the middle, in units common to one exponent. -/
def Interval.distance (i : Interval) (d : Decimal) : Nat :=
  let value := d.digits * tenTo d.exponent.toNat * i.denominator
  let middle := i.numerator * tenTo (-d.exponent).toNat
  (value - middle) + (middle - value)

/-- The decimal with the given exponent just below the middle, or at it. -/
def Interval.floorAt (i : Interval) (exponent : Int) : Decimal :=
  ⟨i.numerator * tenTo (-exponent).toNat / (i.denominator * tenTo exponent.toNat), exponent⟩

/-- The better of the two neighbours on one grid: one that lies inside, the nearer if both do, the
even one in a tie. -/
def Interval.onGrid? (i : Interval) (exponent : Int) : Option Decimal :=
  let lower := i.floorAt exponent
  let upper : Decimal := ⟨lower.digits + 1, exponent⟩
  match i.contains lower, i.contains upper with
  | false, false => none
  | true, false => some lower
  | false, true => some upper
  | true, true =>
    let below := i.distance lower
    let above := i.distance upper
    if below < above then some lower
    else if above < below then some upper
    else if lower.digits % 2 == 0 then some lower else some upper

/-- The first grid with a hit, from `exponent` downwards. -/
def Interval.search (i : Interval) : Nat → Int → Option Decimal
  | 0, _ => none
  | tries + 1, exponent =>
    match i.onGrid? exponent with
    | some d => some d
    | none => i.search tries (exponent - 1)

/-- The number of decimal digits of a number; one for zero. -/
def digitCount (n : Nat) : Nat := (Nat.toDigits 10 n).length

/-- The exponent of the first grid to try: that of the leading digit or the one above. -/
def Interval.topExponent (i : Interval) : Int :=
  (digitCount i.numerator : Int) - digitCount i.denominator + 1

/-- Drops the zeros at the end of the digits. -/
def Decimal.reduce : Nat → Decimal → Decimal
  | 0, d => d
  | tries + 1, d =>
    if d.digits != 0 && d.digits % 10 == 0 then Decimal.reduce tries ⟨d.digits / 10, d.exponent + 1⟩
    else d

/-- The shortest decimal that reads back as the given positive finite double. -/
def Parts.shortest (p : Parts) : Decimal :=
  let i := p.interval
  match i.search 21 i.topExponent with
  | some d => d.reduce 400
  | none => ⟨p.mantissa, p.exponent⟩

/-- The digits of a decimal with the point put at its place. -/
def Decimal.positional (d : Decimal) : String :=
  let digits := Nat.toDigits 10 d.digits
  let point := (digits.length : Int) + d.exponent
  let zeros (n : Nat) : List Char := List.replicate n '0'
  String.ofList <|
    if point ≤ 0 then '0' :: '.' :: zeros (-point).toNat ++ digits
    else if 0 ≤ d.exponent then digits ++ zeros d.exponent.toNat ++ ['.', '0']
    else digits.take point.toNat ++ ['.'] ++ digits.drop point.toNat

/-- The digits of a decimal with one digit before the point, and an exponent. -/
def Decimal.scientific (d : Decimal) : String :=
  let digits := Nat.toDigits 10 d.digits
  let power := (digits.length : Int) + d.exponent - 1
  let size := Nat.toDigits 10 power.natAbs
  let fraction := digits.drop 1
  String.ofList <|
    digits.take 1 ++ (if fraction.isEmpty then [] else '.' :: fraction) ++
      ['e', if power < 0 then '-' else '+'] ++ (if size.length < 2 then '0' :: size else size)

/-- The text of a double: its shortest decimal, `nan`, or a signed `inf`. -/
def written (x : Float) : String :=
  match parts? x with
  | none => if x.isNaN then "nan" else if x < 0 then "-inf" else "inf"
  | some p =>
    let text :=
      if p.mantissa == 0 then "0.0"
      else
        let d := p.shortest
        let point := (digitCount d.digits : Int) + d.exponent
        if -4 < point && point ≤ 16 then d.positional else d.scientific
    if p.negative then "-" ++ text else text

end Double
end RecordRules
