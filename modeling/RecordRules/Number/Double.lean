import RecordRules.Number.Power

/-!
# Doubles and integers

A finite double is a whole number times a power of two; `parts?` takes it apart.  From there:

* `ofInt?` is the double nearest to an integer, as long as the integer is within range;
* `truncate?` drops the fraction of a double;
* `equalsInt` compares a double with an integer exactly, which rounding the integer would not.
-/

set_option autoImplicit false

namespace RecordRules
namespace Double

/-- A finite double: `mantissa * 2 ^ exponent`, with a sign. -/
structure Parts where
  negative : Bool
  mantissa : Nat
  exponent : Int
deriving DecidableEq, Repr

/-- The whole number and power of two of a finite double. -/
def parts? (x : Float) : Option Parts :=
  let bits : Nat := x.toBits.toNat
  let negative := bits / twoTo 63 == 1
  let biased : Nat := bits / twoTo 52 % twoTo 11
  let fraction : Nat := bits % twoTo 52
  if biased == 2047 then none
  else if biased == 0 then some ⟨negative, fraction, -1074⟩
  else some ⟨negative, fraction + twoTo 52, (biased : Int) - 1075⟩

/-- The double nearest to an integer, a tie going to the even mantissa; nothing when the integer
is beyond the largest double. -/
def ofInt? (n : Int) : Option Float :=
  let x := Float.ofInt n
  if x.isInf then none else some x

/-- The whole part of a finite double. -/
def truncate? (x : Float) : Option Int :=
  (parts? x).map fun p =>
    let size : Nat :=
      if 0 ≤ p.exponent then p.mantissa * twoTo p.exponent.toNat
      else p.mantissa / twoTo (-p.exponent).toNat
    if p.negative then -(size : Int) else size

/-- Whether a finite double has no fraction. -/
def isWhole (x : Float) : Bool :=
  match parts? x with
  | none => false
  | some p => 0 ≤ p.exponent || p.mantissa % twoTo (-p.exponent).toNat == 0

/-- Whether a double is exactly the given integer. -/
def equalsInt (x : Float) (n : Int) : Bool :=
  isWhole x && truncate? x == some n

end Double
end RecordRules
