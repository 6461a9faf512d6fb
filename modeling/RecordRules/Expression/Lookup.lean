import RecordRules.Value.Literal
import RecordRules.Expression.Error
import RecordRules.Text.Split

/-!
# Simple values

A text without operators denotes a literal, the value under a name of the context, the value at
the end of a dotted path through nested maps, or itself: `simpleValue` tries them in that order.
-/

set_option autoImplicit false

namespace RecordRules
namespace Expression

/-- The named values an expression can refer to. -/
abbrev Context := Fields Value

/-- What evaluation yields: a value, or the error that stopped it. -/
abbrev Outcome (α : Type) := Except Error α

/-- An outcome of computing with values; the text is filled in where the expression is known. -/
def ofValueError {α : Type} : Except ValueError α → Outcome α
  | .ok a => .ok a
  | .error e => .error ⟨.broken e, none⟩

/-- The value at the end of a path through nested maps. -/
def walk? : Value → List (List Char) → Option Value
  | value, [] => some value
  | .map entries, segment :: path =>
    match Fields.get? entries (String.ofList segment) with
    | some value => walk? value path
    | none => none
  | _, _ :: _ => none

/-- The value at a dotted path whose first segment is a name of the context. -/
def pathValue? (context : Context) (text : List Char) : Option Value :=
  match Text.pieces ['.'] text with
  | head :: segment :: path =>
    match context.get? (String.ofList head) with
    | some value => walk? value (segment :: path)
    | none => none
  | _ => none

/-- What a text without operators refers to: a name, a path, or itself. -/
def reference (context : Context) (text : List Char) : Value :=
  match context.get? (String.ofList text) with
  | some value => value
  | none => (pathValue? context text).getD (.text (String.ofList text))

/-- The value of a text without operators. -/
def simpleValue (context : Context) (text : List Char) : Outcome Value := do
  match ← ofValueError (Value.literal? text) with
  | some value => return value
  | none => return reference context text

end Expression
end RecordRules
