import RecordRules.Value.Coercion

/-!
# Errors of expressions

An expression is either refused before it is evaluated (`Cause.isRefusal`) or fails while it is.
`Error` adds the text in which the cause was met; only its first `excerptLength` characters are
ever reported.
-/

set_option autoImplicit false

namespace RecordRules
namespace Expression

/-- The operations that need numbers. -/
inductive Arithmetic where
  | add
  | subtract
  | multiply
  | divide
deriving DecidableEq, Repr

/-- Why an expression has no value. -/
inductive Cause where
  /-- There is no expression, or nothing but blanks. -/
  | blank
  /-- The expression has more characters than allowed. -/
  | tooLong (length : Nat) (limit : Int)
  /-- Logical operators nest deeper than allowed. -/
  | tooDeep (limit : Int)
  /-- An operand has no numeric reading. -/
  | notNumeric (operation : Arithmetic)
  /-- The divisor is zero. -/
  | zeroDivisor
  /-- The argument of `sum` is not a list. -/
  | notAList (kind : Kind) (shown : String)
  /-- A value is no expression value. -/
  | unsupported (typeLabel : String)
  /-- A value cannot be computed with. -/
  | broken (error : ValueError)
deriving DecidableEq, Repr

/-- Whether the expression was refused rather than failed. -/
def Cause.isRefusal : Cause → Bool
  | .blank => true
  | .tooLong _ _ => true
  | .tooDeep _ => true
  | _ => false

/-- The wording of a cause. -/
def Cause.message : Cause → String
  | .blank => "Expression cannot be null or empty"
  | .tooLong length limit => s!"Expression length {length} exceeds maximum of {limit}"
  | .tooDeep limit => s!"Expression nesting exceeds maximum depth of {limit}"
  | .notNumeric .add => "Cannot add non-numeric value"
  | .notNumeric .subtract => "Cannot subtract non-numeric values"
  | .notNumeric .multiply => "Cannot multiply non-numeric value"
  | .notNumeric .divide => "Cannot divide non-numeric values"
  | .zeroDivisor => "Division by zero"
  | .notAList kind shown => "sum() expects an array, got " ++ kind.label ++ ": " ++ shown
  | .unsupported label => "Unsupported value type: " ++ label
  | .broken error => "Failed to evaluate expression: " ++ error.message

/-- A cause, and the text in which it was met. -/
structure Error where
  cause : Cause
  source : Option (List Char)
deriving DecidableEq, Repr

/-- The wording of an error. -/
def Error.message (e : Error) : String := e.cause.message

/-- How many characters of an expression are reported. -/
def excerptLength : Nat := 200

/-- The reported part of the text in which the cause was met. -/
def Error.excerpt? (e : Error) : Option String :=
  e.source.map fun cs => String.ofList (cs.take excerptLength)

end Expression
end RecordRules
