import RecordRules.Value.Coercion

/-!
# Literals

A literal is a text that stands for one value wherever it occurs: `true`, `false`, `null`, a text
in quotes, or a number.  `Value.literal?` reads it.

Digits of every script make numbers.  A line break may follow a number.
-/

set_option autoImplicit false

namespace RecordRules
namespace Value

/-- The text between two equal quotes, if that quote does not occur in it. -/
def quotedLiteral? : List Char → Option (Option (List Char))
  | [] => none
  | quote :: rest =>
    if (quote == '\'' || quote == '"') && rest.getLast? == some quote then
      let inner := rest.dropLast
      some (if inner.contains quote then none else some inner)
    else none

/-- A text without one line break at its end. -/
def dropLineEnd (cs : List Char) : List Char :=
  if cs.getLast? == some '\n' then cs.dropLast else cs

/-- The integer that digits write, if there are not too many of them. -/
def intLiteral (negative : Bool) (digits : List Nat) : Except ValueError Value :=
  if digitLimit < digits.length then .error (.literalTooLong digits.length)
  else
    let size : Int := ofDigits digits
    .ok (.int (if negative then -size else size))

/-- The double of a number with a point. -/
def decimalLiteral (negative : Bool) (whole fraction : List Nat) : Value :=
  let size := Double.ofDecimal (ofDigits (whole ++ fraction)) (-(fraction.length : Int))
  .float (if negative then -size else size)

/-- A number: an optional minus, digits, and optionally a point and more digits. -/
def numberLiteral? (text : List Char) : Option (Except ValueError Value) :=
  let plain := dropLineEnd text
  let negative := plain.head? == some '-'
  let size := if negative then plain.drop 1 else plain
  match digitRun? size with
  | some digits => some (intLiteral negative digits)
  | none =>
    match size.span (· != '.') with
    | (whole, _ :: fraction) =>
      match digitRun? whole, digitRun? fraction with
      | some ws, some fs => some (.ok (decimalLiteral negative ws fs))
      | _, _ => none
    | _ => none

/-- The value that a text stands for, if it is a literal. -/
def literal? (text : List Char) : Except ValueError (Option Value) :=
  if text = "true".toList then .ok (some (.bool true))
  else if text = "false".toList then .ok (some (.bool false))
  else if text = "null".toList then .ok (some .null)
  else
    match quotedLiteral? text with
    | some (some inner) => .ok (some (.text (String.ofList inner)))
    | some none => .ok none
    | none =>
      match numberLiteral? text with
      | some (.ok value) => .ok (some value)
      | some (.error e) => .error e
      | none => .ok none

end Value
end RecordRules
