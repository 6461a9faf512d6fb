import RecordRules.Fault.Basic
import RecordRules.Expression.Evaluate

/-!
# Failures

Whatever can keep an operation from its result:

* a `Fault`, which the library raises on purpose;
* violations of a data model (`Violation`), with the place of each;
* a `Mishap`: something outside the library's own faults went wrong, such as an argument of a type
  that nothing can be done with.
-/

set_option autoImplicit false

namespace RecordRules

/-- A step on the way to the place of a violation: a field or an index. -/
inductive Place where
  | field (name : String)
  | index (n : Nat)
deriving DecidableEq, Repr

/-- How data fails its model. -/
inductive Violation.Kind where
  | missing
  | stringType
  | boolType
  | boolParsing
  | intType
  | intParsing
  | intParsingSize
  | intFromFloat
  | finiteNumber
  | listType
  | dictType
  | modelType
  /-- As `modelType`, of data that a request brings. -/
  | modelAttributesType
  | enumeration
  | momentType
  /-- A text writes no moment. -/
  | momentText
  /-- A number gives no moment, or the moment is before those that records hold. -/
  | momentNumber
  | frozen
  | jsonInvalid
  /-- A rule of the model itself, with its wording. -/
  | rule (message : String)
deriving DecidableEq, Repr

/-- The name of a kind of violation. -/
def Violation.Kind.label : Violation.Kind → String
  | .missing => "missing"
  | .stringType => "string_type"
  | .boolType => "bool_type"
  | .boolParsing => "bool_parsing"
  | .intType => "int_type"
  | .intParsing => "int_parsing"
  | .intParsingSize => "int_parsing_size"
  | .intFromFloat => "int_from_float"
  | .finiteNumber => "finite_number"
  | .listType => "list_type"
  | .dictType => "dict_type"
  | .modelType => "model_type"
  | .modelAttributesType => "model_attributes_type"
  | .enumeration => "enum"
  | .momentType => "datetime_type"
  | .momentText => "datetime_from_date_parsing"
  | .momentNumber => "datetime_parsing"
  | .frozen => "frozen_instance"
  | .jsonInvalid => "json_invalid"
  | .rule _ => "value_error"

/-- One violation of a data model, and where it was met. -/
structure Violation where
  place : List Place
  kind : Violation.Kind
deriving DecidableEq, Repr

/-- The kinds of mishaps. -/
inductive Mishap.Kind where
  | value
  | overflow
  | type
  | attribute
  | key
  | runtime
  /-- A database cannot do what it is asked to. -/
  | database
  /-- A file is no database. -/
  | databaseFile
  /-- The address of a database is wrong. -/
  | address
  /-- A kind of database is not known. -/
  | plugin
  /-- A part of the program is not installed. -/
  | notInstalled
  /-- A file or directory cannot be made or opened. -/
  | fileMissing
  | fileExists
  | notADirectory
  | isADirectory
  | file
  /-- A text has characters that it cannot be sent with. -/
  | encoding
  /-- A result has characters that it cannot be sent with. -/
  | serialization
  /-- An address is none. -/
  | url
  /-- Something that has to be given is missing. -/
  | assertion
  | validation
  /-- A module cannot be imported. -/
  | importing
  /-- Anything else, by the name of its class. -/
  | other (label : String)
deriving DecidableEq, Repr, Inhabited

/-- The name of a kind of mishap. -/
def Mishap.Kind.label : Mishap.Kind → String
  | .value => "ValueError"
  | .overflow => "OverflowError"
  | .type => "TypeError"
  | .attribute => "AttributeError"
  | .key => "KeyError"
  | .runtime => "RuntimeError"
  | .database => "OperationalError"
  | .databaseFile => "DatabaseError"
  | .address => "ArgumentError"
  | .plugin => "NoSuchModuleError"
  | .notInstalled => "ModuleNotFoundError"
  | .fileMissing => "FileNotFoundError"
  | .fileExists => "FileExistsError"
  | .notADirectory => "NotADirectoryError"
  | .isADirectory => "IsADirectoryError"
  | .file => "OSError"
  | .encoding => "UnicodeEncodeError"
  | .serialization => "PydanticSerializationError"
  | .url => "InvalidURL"
  | .assertion => "AssertionError"
  | .validation => "ValidationError"
  | .importing => "ImportError"
  | .other label => label

/-- Something outside the library's own faults that went wrong. -/
structure Mishap where
  kind : Mishap.Kind
  message : String
deriving DecidableEq, Repr, Inhabited

/-- Whatever can keep an operation from its result. -/
inductive Failure where
  | fault (fault : Fault)
  | violations (model : String) (violations : List Violation)
  | mishap (mishap : Mishap)
deriving Inhabited

/-- What an operation yields: a result, or why there is none. -/
abbrev Result (α : Type) := Except Failure α

namespace Failure

/-- The wording of a failure. -/
def message : Failure → String
  | .fault f => f.message
  | .violations model vs =>
    let noun := if vs.length = 1 then "validation error" else "validation errors"
    s!"{vs.length} {noun} for {model}"
  | .mishap m => m.message

/-- A mishap as a failure. -/
def ofMishap (kind : Mishap.Kind) (message : String) : Failure := .mishap ⟨kind, message⟩

/-- The failure of a value that has no items. -/
def noItems (v : Value) : Failure :=
  .ofMishap .type s!"argument of type '{v.typePath}' is not iterable"

/-- The failure of a value that does not consist of others. -/
def noElements (v : Value) : Failure := .ofMishap .type s!"'{v.typePath}' object is not iterable"

/-- The failure of a value without an attribute. -/
def noAttribute (v : Value) (name : String) : Failure :=
  .ofMishap .attribute s!"'{v.typePath}' object has no attribute '{name}'"

end Failure

/-- A value error met outside an expression. -/
def ValueError.toFailure (e : ValueError) : Failure :=
  match e with
  | .integerTooLarge => .ofMishap .overflow e.message
  | _ => .ofMishap .value e.message

namespace Expression

/-- The fault that reports an error of an expression. -/
def Error.toFault (e : Error) : Fault :=
  let kind : Fault.Kind := if e.cause.isRefusal then .invalidExpression else .evaluation
  Fault.of kind e.message [("expression", Value.ofText? e.excerpt?)]

/-- The failure that reports an error of an expression. -/
def Error.toFailure (e : Error) : Failure := .fault e.toFault

end Expression

/-- The kind of a value, or the fault of having none. -/
def Value.classify (value : Value) : Result Kind :=
  (Expression.kindOf value).mapError Expression.Error.toFailure

end RecordRules
