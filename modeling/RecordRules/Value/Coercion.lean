import RecordRules.Value.Equality
import RecordRules.Value.Written
import RecordRules.Number.Reading

/-!
# Values as numbers, and equality in expressions

* `Value.toNumber` is the numeric reading of a value: numbers and texts that write one have it.
* `Value.equal` is the `==` of expressions: numbers are compared as doubles, null and truth values
  only equal their own kind, and everything else is compared by structure.

Both fail on an integer beyond the largest double.
-/

set_option autoImplicit false

namespace RecordRules

/-- Why a value cannot be computed with. -/
inductive ValueError where
  /-- An integer is beyond the largest double. -/
  | integerTooLarge
  /-- An integer literal has too many digits to be read. -/
  | literalTooLong (digits : Nat)
  /-- An integer has too many digits to be written. -/
  | integerTextTooLong
deriving DecidableEq, Repr

/-- The wording of a value error. -/
def ValueError.message : ValueError → String
  | .integerTooLarge => "int too large to convert to float"
  | .literalTooLong digits =>
    s!"Exceeds the limit (4300 digits) for integer string conversion: value has {digits} digits; " ++
      "use sys.set_int_max_str_digits() to increase the limit"
  | .integerTextTooLong =>
    "Exceeds the limit (4300 digits) for integer string conversion; " ++
      "use sys.set_int_max_str_digits() to increase the limit"

namespace Value

/-- An integer as the nearest double. -/
def intNumber (n : Int) : Except ValueError Float :=
  match Double.ofInt? n with
  | some x => .ok x
  | none => .error .integerTooLarge

/-- The numeric reading of a value, if it has one: numbers, and texts that write a number. -/
def toNumber : Value → Except ValueError (Option Float)
  | .int n => (intNumber n).map some
  | .float x => .ok (some x)
  | .nan mark => .ok (Value.nan mark).double?
  | .text s => .ok (Double.read? (Text.trim s.toList))
  | _ => .ok none

/-- Equality in expressions. -/
def equal : Value → Value → Except ValueError Bool
  | .null, .null => .ok true
  | .null, _ => .ok false
  | _, .null => .ok false
  | .bool a, .bool b => .ok (a == b)
  | .bool _, _ => .ok false
  | _, .bool _ => .ok false
  | .int m, .int n => do return (← intNumber m) == (← intNumber n)
  | .int m, .float y => do return (← intNumber m) == y
  | .float x, .int n => do return x == (← intNumber n)
  | .float x, .float y => .ok (x == y)
  | .int m, .nan _ => do return (fun _ => false) (← intNumber m)
  | .nan _, .int n => do return (fun _ => false) (← intNumber n)
  | .nan _, .nan _ => .ok false
  | v, w => .ok (same v w)

end Value
end RecordRules
