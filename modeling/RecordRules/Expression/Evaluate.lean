import RecordRules.Expression.Lookup

/-!
# Evaluating expressions

Expressions have no grammar with precedences.  `evaluateWithin` looks for operators in a fixed
order and splits the text at the first kind it finds:

1. a comparison `==`, `!=`, `<=`, `>=`, `<` or `>`, split once, between simple values;
2. `&&` and then `||`, split everywhere, between expressions; the rest is not evaluated once the
   result is certain;
3. `+`, `-`, `*` and `/` between simple values that have a numeric reading; a minus at the start is
   no operator;
4. `sum(...)` over the numbers of a list, or over a field of a list of maps;
5. a simple value.

So `a == 1 && b == 2` compares `a` with the text `1 && b == 2`.

`evaluate` is the whole: it refuses blank and over-long texts, and takes a literal or a name of
the context as it stands, operators in it or not.
-/

set_option autoImplicit false

namespace RecordRules
namespace Expression

/-- How long an expression may be, and how deep its logical operators may nest. -/
structure Limits where
  maxLength : Int := 4096
  maxDepth : Int := 32
deriving DecidableEq, Repr

/-! ## Comparisons -/

/-- The comparison operators. -/
inductive Comparison where
  | equal
  | unequal
  | atMost
  | atLeast
  | less
  | greater
deriving DecidableEq, Repr

/-- The text of a comparison operator. -/
def Comparison.symbol : Comparison → List Char
  | .equal => ['=', '=']
  | .unequal => ['!', '=']
  | .atMost => ['<', '=']
  | .atLeast => ['>', '=']
  | .less => ['<']
  | .greater => ['>']

/-- The comparison operators in the order in which they are looked for. -/
def Comparison.all : List Comparison := [.equal, .unequal, .atMost, .atLeast, .less, .greater]

/-- The first comparison operator that occurs in a text, and the texts at its sides. -/
def findComparison? (text : List Char) : Option (Comparison × List Char × List Char) :=
  Comparison.all.findSome? fun op => (Text.cut? op.symbol text).map fun sides => (op, sides)

/-- The order of two numbers as a comparison asks for it. -/
def Comparison.holds : Comparison → Float → Float → Bool
  | .equal, x, y => x == y
  | .unequal, x, y => !(x == y)
  | .atMost, x, y => x ≤ y
  | .atLeast, x, y => x ≥ y
  | .less, x, y => x < y
  | .greater, x, y => x > y

/-- Compares two values.  Values without a numeric reading are in no order. -/
def Comparison.decide (op : Comparison) (left right : Value) : Except ValueError Bool :=
  match op with
  | .equal => Value.equal left right
  | .unequal => do return !(← Value.equal left right)
  | _ => do
    let x ← left.toNumber
    let y ← right.toNumber
    match x, y with
    | some x, some y => return op.holds x y
    | _, _ => return false

/-! ## Arithmetic -/

/-- The number that an operand stands for. -/
def operand (context : Context) (operation : Arithmetic) (source text : List Char) :
    Outcome Float := do
  match ← ofValueError (← simpleValue context (Text.trim text)).toNumber with
  | some x => return x
  | none => .error ⟨.notNumeric operation, some source⟩

/-- Combines the numbers of all operands, from left to right. -/
def foldOperands (context : Context) (operation : Arithmetic) (source : List Char)
    (combine : Float → Float → Float) (start : Float) (parts : List (List Char)) : Outcome Float :=
  parts.foldlM (fun total part => do return combine total (← operand context operation source part))
    start

/-- The quotient of two operands. -/
def quotient (context : Context) (source left right : List Char) : Outcome Float := do
  let x ← operand context .divide source left
  let y ← operand context .divide source right
  if y == 0.0 then .error ⟨.zeroDivisor, some source⟩ else return x / y

/-- The difference of two operands. -/
def difference (context : Context) (source left right : List Char) : Outcome Float := do
  let x ← operand context .subtract source left
  let y ← operand context .subtract source right
  return x - y

/-! ## Sums over lists -/

/-- The kind of a value, which dates do not have. -/
def kindOf (value : Value) : Outcome Kind :=
  match value.kind? with
  | some kind => .ok kind
  | none => .error ⟨.unsupported value.typeLabel, none⟩

/-- The sum of the values that have a numeric reading, from left to right. -/
def total (values : List Value) : Outcome Float :=
  values.foldlM
    (fun sum value => do
      match ← ofValueError value.toNumber with
      | some x => return sum + x
      | none => return sum)
    0.0

/-- The values of a field in the maps among some items, null where a map lacks it. -/
def column (field : String) (items : List Value) : List Value :=
  items.filterMap fun item =>
    match item with
    | .map entries => some ((Fields.get? entries field).getD .null)
    | _ => none

/-- The error of a sum over something that is no list. -/
def notAList {α : Type} (source : List Char) (kind : Kind) (value : Value) : Outcome α :=
  match value.written? with
  | some shown => .error ⟨.notAList kind shown, some source⟩
  | none => .error ⟨.broken .integerTextTooLong, none⟩

/-- The sum over the argument of `sum`: a list, or a list of maps and a field after the last
point. -/
def sumOf (context : Context) (argument : List Char) : Outcome Float := do
  let value ← simpleValue context argument
  let kind ← kindOf value
  match value.items? with
  | some items => total items
  | none =>
    match Text.cutLast? ['.'] argument with
    | none => notAList argument kind value
    | some (array, field) =>
      let value ← simpleValue context (Text.trim array)
      let kind ← kindOf value
      match value.items? with
      | some items => total (column (String.ofList (Text.trim field)) items)
      | none => notAList argument kind value

/-- The argument of a call of `sum` that makes up the whole text. -/
def sumArgument? (text : List Char) : Option (List Char) := do
  let (name, rest) ← Text.cut? ['('] text
  let (argument, _) ← Text.cutLast? [')'] rest
  if Text.trim name = "sum".toList then some (Text.trim argument) else none

/-! ## Expressions -/

/-- Evaluates a text in which no comparison and no logical operator occurs. -/
def evaluateTerm (context : Context) (text : List Char) : Outcome Value :=
  if Text.occurs ['+'] text then
    Value.float <$> foldOperands context .add text (· + ·) 0.0 (Text.pieces ['+'] text)
  else
    match if text.head? = some '-' then none else Text.cut? ['-'] text with
    | some (left, right) => Value.float <$> difference context text left right
    | none =>
      if Text.occurs ['*'] text then
        Value.float <$> foldOperands context .multiply text (· * ·) 1.0 (Text.pieces ['*'] text)
      else
        match Text.cut? ['/'] text with
        | some (left, right) => Value.float <$> quotient context text left right
        | none =>
          match sumArgument? text with
          | some argument => Value.float <$> sumOf context argument
          | none => simpleValue context text

/-- Whether all tests succeed; the rest is not tested after the first that does not. -/
def allTrue {α : Type} (test : α → Outcome Bool) : List α → Outcome Bool
  | [] => .ok true
  | a :: rest => do if ← test a then allTrue test rest else return false

/-- Whether some test succeeds; the rest is not tested after the first that does. -/
def anyTrue {α : Type} (test : α → Outcome Bool) : List α → Outcome Bool
  | [] => .ok false
  | a :: rest => do if ← test a then return true else anyTrue test rest

/-- Evaluates a text with at most `depth` levels of logical operators, this one included. -/
def evaluateWithin (limits : Limits) (context : Context) : Nat → List Char → Outcome Value
  | 0, text => .error ⟨.tooDeep limits.maxDepth, some text⟩
  | depth + 1, text =>
    let isTrue (part : List Char) : Outcome Bool :=
      Value.isTrue <$> evaluateWithin limits context depth (Text.trim part)
    match findComparison? text with
    | some (op, left, right) => do
      let x ← simpleValue context (Text.trim left)
      let y ← simpleValue context (Text.trim right)
      Value.bool <$> ofValueError (op.decide x y)
    | none =>
      if Text.occurs ['&', '&'] text then
        Value.bool <$> allTrue isTrue (Text.pieces ['&', '&'] text)
      else if Text.occurs ['|', '|'] text then
        Value.bool <$> anyTrue isTrue (Text.pieces ['|', '|'] text)
      else evaluateTerm context text

/-- Evaluates a trimmed text: a literal, a name of the context, or an expression. -/
def evaluateTrimmed (limits : Limits) (context : Context) (text : List Char) : Outcome Value := do
  match ← ofValueError (Value.literal? text) with
  | some value => return value
  | none =>
    match context.get? (String.ofList text) with
    | some value => return value
    | none => evaluateWithin limits context limits.maxDepth.toNat text

/-- Names the whole expression in an error about values, which arises without one. -/
def Error.within (text : List Char) (e : Error) : Error :=
  match e.cause with
  | .broken _ => { e with source := some text }
  | _ => e

/-- Evaluates an expression in a context. -/
def evaluate (limits : Limits) (context : Context) (expression : String) : Outcome Value :=
  let text := expression.toList
  if Text.trim text = [] then .error ⟨.blank, some text⟩
  else if limits.maxLength < text.length then
    .error ⟨.tooLong text.length limits.maxLength, some text⟩
  else (evaluateTrimmed limits context (Text.trim text)).mapError (Error.within (Text.trim text))

/-- Evaluates an expression that may be missing. -/
def evaluate? (limits : Limits) (context : Context) : Option String → Outcome Value
  | none => .error ⟨.blank, none⟩
  | some expression => evaluate limits context expression

/-- Evaluates a condition.  An expression that fails is not met. -/
def holds (limits : Limits) (context : Context) (expression : String) : Bool :=
  match evaluate limits context expression with
  | .ok value => value.isTrue
  | .error _ => false

/-- Evaluates whatever stands where a condition is expected.  What is no text is not met. -/
def valueHolds (limits : Limits) (context : Context) : Value → Bool
  | .text expression => holds limits context expression
  | _ => false

end Expression
end RecordRules
