import RecordRules.Failure

/-!
# Strict JSON

What leaves for other programs is strict JSON: it has no words for infinity and not-a-number, and no
form for days and moments.  `Json.obstacle?` is the first thing that keeps a value from being
written in it.

What is written is sent as bytes, for which every character has to be whole: `Json.hasHalf` says
whether one of the texts in a value, or of the names, is not.
-/

set_option autoImplicit false

namespace RecordRules
namespace Json

/-- A number that is none. -/
def notFinite : Mishap := ⟨.value, "Out of range float values are not JSON compliant"⟩

/-- A value without a form. -/
def formless (v : Value) : Mishap :=
  ⟨.type, s!"Object of type {v.typeLabel} is not JSON serializable"⟩

mutual

/-- The first thing that keeps a value from being written. -/
def obstacle? : Value → Option Mishap
  | .float x => if x.isNaN || x.isInf then some notFinite else none
  | .nan _ => some notFinite
  | .int n => if tooManyDigits n then some ⟨.value, ValueError.integerTextTooLong.message⟩ else none
  | .date day => some (formless (.date day))
  | .moment time => some (formless (.moment time))
  | .list items => obstacleInItems? items
  | .tuple items => obstacleInItems? items
  | .map entries => obstacleInEntries? entries
  | _ => none

/-- The first obstacle among items. -/
def obstacleInItems? : List Value → Option Mishap
  | [] => none
  | v :: rest => (obstacle? v).or (obstacleInItems? rest)

/-- The first obstacle among entries. -/
def obstacleInEntries? : List (String × Value) → Option Mishap
  | [] => none
  | (_, v) :: rest => (obstacle? v).or (obstacleInEntries? rest)

end

/-! ## Depth -/

mutual

/-- How many values are in each other, the outermost one included. -/
def depth : Value → Nat
  | .list items => depthOfItems items + 1
  | .tuple items => depthOfItems items + 1
  | .map entries => depthOfEntries entries + 1
  | _ => 1

/-- The greatest depth of items. -/
def depthOfItems : List Value → Nat
  | [] => 0
  | v :: rest => max (depth v) (depthOfItems rest)

/-- The greatest depth of entries. -/
def depthOfEntries : List (String × Value) → Nat
  | [] => 0
  | (_, v) :: rest => max (depth v) (depthOfEntries rest)

end

/-! ## Halves of characters -/

mutual

/-- Whether a text in a value, or a name if names count, holds half a character. -/
def hasHalf (names : Bool) : Value → Bool
  | .text s => Text.hasHalf s
  | .list items => hasHalfItem names items
  | .tuple items => hasHalfItem names items
  | .map entries => hasHalfEntry names entries
  | _ => false

/-- Whether half a character is in one of some items. -/
def hasHalfItem (names : Bool) : List Value → Bool
  | [] => false
  | v :: rest => hasHalf names v || hasHalfItem names rest

/-- Whether half a character is in one of some entries. -/
def hasHalfEntry (names : Bool) : List (String × Value) → Bool
  | [] => false
  | (name, v) :: rest => (names && Text.hasHalf name) || hasHalf names v || hasHalfEntry names rest

end

/-- A text that cannot be sent as bytes. -/
def unsendable : Mishap := ⟨.encoding, "surrogates not allowed"⟩

/-- The first thing that keeps values from being written and sent. -/
def problem? (values : List Value) : Option Mishap :=
  values.findSome? obstacle? <|> if values.any (hasHalf true) then some unsendable else none

mutual

/-- A value in whose names three replacements stand for every half of a character, one for each
byte that it would take. -/
def wholeNames : Value → Value
  | .list items => .list (wholeNamesOfItems items)
  | .tuple items => .tuple (wholeNamesOfItems items)
  | .map entries => .map (wholeNamesOfEntries entries)
  | v => v

/-- Items with names of whole characters. -/
def wholeNamesOfItems : List Value → List Value
  | [] => []
  | v :: rest => wholeNames v :: wholeNamesOfItems rest

/-- Entries with names of whole characters. -/
def wholeNamesOfEntries : List (String × Value) → List (String × Value)
  | [] => []
  | (name, v) :: rest => (Text.withoutHalves name, wholeNames v) :: wholeNamesOfEntries rest

end

end Json
end RecordRules
