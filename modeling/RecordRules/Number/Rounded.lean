import RecordRules.Number.Shortest

/-!
# Decimals with a given number of digits

A double has an exact decimal expansion.  Here it is rounded to a number of places behind the point
(`positional`), behind the leading digit (`scientific`), or to a number of significant digits
(`general`).  The nearest decimal is taken, of two the even one.
-/

set_option autoImplicit false

namespace RecordRules
namespace Double

/-- The integer nearest to a fraction, of two the even one. -/
def roundDiv (numerator denominator : Nat) : Nat :=
  let whole := numerator / denominator
  let rest := 2 * (numerator % denominator)
  if denominator < rest || (rest == denominator && whole % 2 == 1) then whole + 1 else whole

/-- The size of a finite double as a fraction. -/
def Parts.fraction (p : Parts) : Nat × Nat :=
  (p.mantissa * twoTo p.exponent.toNat, twoTo (-p.exponent).toNat)

/-- The size of a finite double in units of `10 ^ exponent`, rounded. -/
def Parts.inUnits (p : Parts) (exponent : Int) : Nat :=
  let (numerator, denominator) := p.fraction
  roundDiv (numerator * tenTo (-exponent).toNat) (denominator * tenTo exponent.toNat)

/-- The exponent of the leading digit of a double; zero for zero. -/
def Parts.leading (p : Parts) : Int :=
  let (numerator, denominator) := p.fraction
  if numerator == 0 then 0
  else if denominator ≤ numerator then (digitCount (numerator / denominator) : Int) - 1
  else
    let guess : Int := (digitCount numerator : Int) - digitCount denominator
    if numerator * tenTo (-guess).toNat < denominator then guess - 1 else guess

/-- Digits with at least so many in front of others. -/
def padded (width n : Nat) : List Char :=
  let digits := Nat.toDigits 10 n
  List.replicate (width - digits.length) '0' ++ digits

/-- Digits with the point before the last ones; it stands before none of them only if asked for. -/
def pointed (places : Nat) (point : Bool) (n : Nat) : List Char :=
  let digits := padded (places + 1) n
  let whole := digits.take (digits.length - places)
  if places == 0 then (if point then whole ++ ['.'] else whole)
  else whole ++ '.' :: digits.drop (digits.length - places)

/-- A double with so many places behind the point. -/
def Parts.positional (p : Parts) (places : Nat) (point : Bool) : List Char :=
  pointed places point (p.inUnits (-places))

/-- The leading digit and so many places behind it as one number, and the exponent. -/
def Parts.leadingDigits (p : Parts) (places : Nat) : Nat × Int :=
  let exponent := p.leading
  let digits := p.inUnits (exponent - places)
  if digits < tenTo (places + 1) then (digits, exponent) else (digits / 10, exponent + 1)

/-- An exponent with its sign and at least two digits. -/
def exponentText (exponent : Int) : List Char :=
  'e' :: (if exponent < 0 then '-' else '+') :: padded 2 exponent.natAbs

/-- A double with one digit before the point, so many places behind it, and an exponent. -/
def Parts.scientific (p : Parts) (places : Nat) (point : Bool) : List Char :=
  let (digits, exponent) := p.leadingDigits places
  pointed places point digits ++ exponentText exponent

/-- Drops zeros behind the point, and the point if nothing is left behind it. -/
def dropZeros (cs : List Char) : List Char :=
  if cs.contains '.' then
    let plain := cs.reverse.dropWhile (· == '0')
    (if plain.head? == some '.' then plain.drop 1 else plain).reverse
  else cs

/-- A double with so many significant digits, positionally unless its exponent is below `-4` or
leaves no digit behind the point.  Zeros at the end stay only if asked for. -/
def Parts.general (p : Parts) (significant : Nat) (zeros : Bool) : List Char :=
  let count := if significant == 0 then 1 else significant
  let (digits, exponent) := p.leadingDigits (count - 1)
  let trim (cs : List Char) : List Char := if zeros then cs else dropZeros cs
  if -4 ≤ exponent && exponent < count then
    trim (p.positional ((count : Int) - 1 - exponent).toNat zeros)
  else trim (pointed (count - 1) zeros digits) ++ exponentText exponent

end Double
end RecordRules
