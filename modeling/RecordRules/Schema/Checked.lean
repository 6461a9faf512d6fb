import RecordRules.Failure
import RecordRules.Moment
import RecordRules.Number.Whole

/-!
# Checked data

Data from outside becomes a record of a known shape field by field.  All fields are looked at even
if one of them is wrong, so that every violation is reported, in the order of the fields.

* `Checked` is a value or the violations found.  Its `<*>` collects the violations of both sides.
* The readers `text`, `truth`, `integer`, `items`, … take the spellings that make sense for their
  type: a truth value may be written as `yes`, an integer as `12.0`.
* `required`, `optional` and `defaulted` read one field of a map, `Checked.ensure` adds a rule.
-/

set_option autoImplicit false

namespace RecordRules

/-- A value, or what is wrong with the data for it. -/
structure Checked (α : Type) where
  result : Except (List Violation) α

namespace Checked

variable {α β : Type}

/-- A value that is right. -/
def valid (a : α) : Checked α := ⟨.ok a⟩

/-- Data that is wrong as a whole. -/
def wrong (kind : Violation.Kind) : Checked α := ⟨.error [⟨[], kind⟩]⟩

/-- Changes the value. -/
def map (f : α → β) (c : Checked α) : Checked β := ⟨c.result.map f⟩

/-- Applies a checked function; violations of both sides are reported, those of the function
first. -/
def apply (f : Checked (α → β)) (c : Checked α) : Checked β :=
  match f.result, c.result with
  | .ok g, .ok a => ⟨.ok (g a)⟩
  | .error vs, .ok _ => ⟨.error vs⟩
  | .ok _, .error ws => ⟨.error ws⟩
  | .error vs, .error ws => ⟨.error (vs ++ ws)⟩

instance : Functor Checked where
  map f c := c.map f

instance : Seq Checked where
  seq f c := apply f (c ())

/-- Checks further what is right so far. -/
def andThen (c : Checked α) (next : α → Checked β) : Checked β :=
  match c.result with
  | .ok a => next a
  | .error vs => ⟨.error vs⟩

/-- Places the violations below a step. -/
def under (place : Place) (c : Checked α) : Checked α :=
  ⟨c.result.mapError fun vs => vs.map fun v => { v with place := place :: v.place }⟩

/-- Adds a rule with its wording. -/
def ensure (c : Checked α) (rule : α → Option String) : Checked α :=
  c.andThen fun a =>
    match rule a with
    | some message => wrong (.rule message)
    | none => valid a

/-- The value, or the failure of not having one. -/
def toResult (model : String) (c : Checked α) : Result α :=
  c.result.mapError (Failure.violations model)

/-- Checks every item of a list; violations are placed at its index. -/
def all (check : Value → Checked α) : Nat → List Value → Checked (List α)
  | _, [] => valid []
  | n, v :: rest => apply (map List.cons ((check v).under (.index n))) (all check (n + 1) rest)

end Checked

/-! ## Readers -/

namespace Shape

open Checked

variable {α : Type}

/-- Any value. -/
def any (v : Value) : Checked Value := valid v

/-- A text. -/
def text : Value → Checked String
  | .text s => valid s
  | _ => wrong .stringType

/-- The words for the truth values. -/
def truthWord? (s : String) : Option Bool :=
  let word := String.ofList (s.toList.map Char.toLower)
  if ["1", "t", "y", "on", "yes", "true"].contains word then some true
  else if ["0", "f", "n", "no", "off", "false"].contains word then some false
  else none

/-- Zero or one as a truth value. -/
def truthOfInt (n : Int) : Checked Bool :=
  if n = 0 then valid false
  else if n = 1 then valid true
  else if Whole.fitsWord n then wrong .boolParsing
  else wrong .boolType

/-- A truth value, one of its words, or zero or one. -/
def truth : Value → Checked Bool
  | .bool b => valid b
  | .int n => truthOfInt n
  | .float x =>
    match Whole.ofDouble x with
    | .ok n => truthOfInt n
    | .error _ => wrong .boolType
  | .text s =>
    match truthWord? s with
    | some b => valid b
    | none => wrong .boolParsing
  | _ => wrong .boolType

/-- The violation of data that is no whole number. -/
def wholeViolation : Whole.Flaw → Violation.Kind
  | .form => .intParsing
  | .size => .intParsingSize
  | .fraction => .intFromFloat
  | .notFinite => .finiteNumber

/-- A whole number, or what keeps data from being one. -/
def whole : Except Whole.Flaw Int → Checked Int
  | .ok n => valid n
  | .error flaw => wrong (wholeViolation flaw)

/-- An integer, a double or text that writes one, or a truth value for zero or one. -/
def integer : Value → Checked Int
  | .int n => valid n
  | .bool b => valid (if b then 1 else 0)
  | .float x => whole (Whole.ofDouble x)
  | .nan _ => wrong .finiteNumber
  | .text s => whole (Whole.read s.toList)
  | _ => wrong .intType

/-- A list of values. -/
def list : Value → Checked (List Value)
  | .list items => valid items
  | .tuple items => valid items
  | _ => wrong .listType

/-- A list whose items all have a shape. -/
def items (check : Value → Checked α) (v : Value) : Checked (List α) :=
  (list v).andThen (Checked.all check 0)

/-- A map from names to values. -/
def map : Value → Checked (Fields Value)
  | .map entries => valid entries
  | _ => wrong .dictType

/-- A map that describes a record of a known shape. -/
def model (check : Fields Value → Checked α) : Value → Checked α
  | .map entries => check entries
  | _ => wrong .modelType

/-- Null, or something of a shape. -/
def nullable (check : Value → Checked α) : Value → Checked (Option α)
  | .null => valid none
  | v => (check v).map some

/-- One of the named alternatives. -/
def oneOf (alternatives : List α) (label : α → String) : Value → Checked α
  | .text s =>
    match alternatives.find? fun a => label a == s with
    | some a => valid a
    | none => wrong .enumeration
  | _ => wrong .enumeration

/-- A moment, what a text writes as one, or a count of seconds. -/
def moment : Value → Checked Moment
  | .moment m => valid m
  | .date s => found .momentText (Moment.read? s)
  | .text s => found .momentText (Moment.read? s)
  | .int n =>
    match Double.ofInt? n with
    | some _ => found .momentNumber (Moment.ofSeconds? n 0)
    | none => wrong .momentType
  | .float x => found .momentNumber (Moment.ofNumber? x)
  | .nan _ => wrong .momentNumber
  | _ => wrong .momentType
where
  /-- The moment found, if there is one and records can hold it. -/
  found (kind : Violation.Kind) : Option Moment → Checked Moment
    | some m => if m.isRecordable then valid m else wrong .momentNumber
    | none => wrong kind

/-! ## Fields -/

/-- A field that must be there. -/
def required (fields : Fields Value) (name : String) (check : Value → Checked α) : Checked α :=
  Checked.under (.field name) <|
    match fields.get? name with
    | some v => check v
    | none => wrong .missing

/-- A field with a default. -/
def defaulted (fields : Fields Value) (name : String) (default : α) (check : Value → Checked α) :
    Checked α :=
  match fields.get? name with
  | some v => (check v).under (.field name)
  | none => valid default

/-- A field that may be missing or null. -/
def optional (fields : Fields Value) (name : String) (check : Value → Checked α) :
    Checked (Option α) :=
  defaulted fields name none (nullable check)

end Shape
end RecordRules
