import RecordRules.Moment
import RecordRules.Value.Fields

/-!
# Values

What a record field, a parameter or an expression can hold.  Dates and moments travel through
records but are no expression values: `Value.kind?` has no kind for them.

* `Kind` is what an expression distinguishes; `Value.kind?` classifies a value.
* `Value.isTrue` is the truth of a value in a condition.
-/

set_option autoImplicit false

namespace RecordRules

/-- A value of a record field, a parameter or an expression.  A `tuple` is a fixed sequence: it
counts as a list, but equals no list.  A `float` that came from outside is a number; what is none
came as `nan`, with a mark that tells one such value from another. -/
inductive Value where
  | null
  | bool (b : Bool)
  | int (n : Int)
  | float (x : Float)
  | nan (mark : Nat)
  | text (s : String)
  | list (items : List Value)
  | tuple (items : List Value)
  | map (entries : List (String × Value))
  | date (day : String)
  | moment (time : Moment)
deriving Inhabited

/-- The kinds of values that expressions know. -/
inductive Kind where
  | null
  | boolean
  | number
  | string
  | list
  | map
deriving DecidableEq, Repr

/-- The name of a kind in messages. -/
def Kind.label : Kind → String
  | .null => "null"
  | .boolean => "boolean"
  | .number => "number"
  | .string => "string"
  | .list => "list"
  | .map => "map"

namespace Value

/-- The kind of a value; dates and moments have none. -/
def kind? : Value → Option Kind
  | .null => some .null
  | .bool _ => some .boolean
  | .int _ => some .number
  | .float _ => some .number
  | .nan _ => some .number
  | .text _ => some .string
  | .list _ => some .list
  | .tuple _ => some .list
  | .map _ => some .map
  | .date _ => none
  | .moment _ => none

/-- The name of a value's type in messages about values that cannot be used. -/
def typeLabel : Value → String
  | .null => "NoneType"
  | .bool _ => "bool"
  | .int _ => "int"
  | .float _ => "float"
  | .nan _ => "float"
  | .text _ => "str"
  | .list _ => "list"
  | .tuple _ => "tuple"
  | .map _ => "dict"
  | .date _ => "date"
  | .moment _ => "datetime"

/-- The name of a value's type in messages about what its values cannot do. -/
def typePath : Value → String
  | .date _ => "datetime.date"
  | .moment _ => "datetime.datetime"
  | v => v.typeLabel

/-- The truth of a value in a condition: a true boolean, a number other than zero, a text with a
character.  Everything else is false, lists and maps included. -/
def isTrue : Value → Bool
  | .bool b => b
  | .int n => n != 0
  | .float x => x != 0.0
  | .nan _ => true
  | .text s => !s.isEmpty
  | _ => false

/-- Whether a value holds anything at all: neither null, nor false, nor zero, nor an empty text,
list or map. -/
def isPresent : Value → Bool
  | .null => false
  | .bool b => b
  | .int n => n != 0
  | .float x => x != 0.0
  | .nan _ => true
  | .text s => !s.isEmpty
  | .list items => !items.isEmpty
  | .tuple items => !items.isEmpty
  | .map entries => !entries.isEmpty
  | .date _ => true
  | .moment _ => true

/-- The double that a value is. -/
def double? : Value → Option Float
  | .float x => some x
  | .nan _ => some (0.0 / 0.0)
  | _ => none

/-- What a value consists of: items, the names of a map, or the characters of a text. -/
def elements? : Value → Option (List Value)
  | .list items => some items
  | .tuple items => some items
  | .map entries => some (entries.map fun entry => .text entry.1)
  | .text s => some (s.toList.map fun c => .text (String.singleton c))
  | _ => none

/-- The items of a list or tuple. -/
def items? : Value → Option (List Value)
  | .list items => some items
  | .tuple items => some items
  | _ => none

/-- The text of an optional text, as a value. -/
def ofText? : Option String → Value
  | some s => .text s
  | none => .null

end Value
end RecordRules
