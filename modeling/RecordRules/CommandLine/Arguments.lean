import RecordRules.Number.Reading
import RecordRules.Text.Split
import RecordRules.Value.Written

/-!
# Arguments of a command line

A command has options and possibly commands below it.  Its arguments are read in two passes:

* `Command.mark` says of each argument whether it names an option.  A long option may be cut short
  as long as it stays unique, and a value may follow it after `=`.  After `--` nothing names an
  option.
* `Command.take` gives the options their values, up to the first argument that is none; from there
  on the arguments belong to a command below.

What nothing is known about is collected, and refused at the end.
-/

set_option autoImplicit false

namespace RecordRules
namespace CommandLine

/-- What an option takes. -/
inductive Accepted where
  /-- Nothing, it is there or not. -/
  | nothing
  /-- Nothing, it asks for help. -/
  | help
  | text
  | oneOf (choices : List String)
  | integer
deriving DecidableEq, Repr

/-- An option, with its names from short to long. -/
structure OptionRule where
  names : List String
  accepts : Accepted
deriving DecidableEq, Repr

/-- A command: its options, and the name of the choice between the commands below it. -/
inductive Command where
  | mk (options : List OptionRule) (choice : String) (commands : List (String × Command))

/-! ## Complaints -/

/-- What is wrong with an argument. -/
inductive Problem where
  | valueMissing
  | valueIgnored (value : String)
  | noInteger (value : String)
  | noChoice (value : String) (choices : List String)
deriving DecidableEq, Repr

/-- The wording of a problem. -/
def Problem.message : Problem → String
  | .valueMissing => "expected one argument"
  | .valueIgnored value => "ignored explicit argument " ++ Text.quoted value
  | .noInteger value => "invalid int value: " ++ Text.quoted value
  | .noChoice value choices =>
    s!"invalid choice: {Text.quoted value} (choose from " ++
      String.intercalate ", " (choices.map Text.quoted) ++ ")"

/-- Why arguments are not accepted. -/
inductive Complaint where
  | argument (name : String) (problem : Problem)
  | ambiguous (given : String) (candidates : List String)
  | unrecognized (arguments : List String)
deriving DecidableEq, Repr

/-- The wording of a complaint. -/
def Complaint.message : Complaint → String
  | .argument name problem => s!"argument {name}: {problem.message}"
  | .ambiguous given candidates =>
    s!"ambiguous option: {given} could match " ++ String.intercalate ", " candidates
  | .unrecognized arguments => "unrecognized arguments: " ++ String.intercalate " " arguments

/-- Why a command line is not carried out. -/
inductive Refused where
  /-- It asks for help. -/
  | help
  /-- A program complains. -/
  | wrong (program : String) (complaint : Complaint)
deriving DecidableEq, Repr

/-! ## Marks -/

/-- A value given together with its option: what stood between them, and the value. -/
structure Attached where
  mark : String
  value : String
deriving DecidableEq, Repr

/-- What an argument is. -/
inductive Mark where
  | plain
  | separator
  /-- An option, by one of its names. -/
  | option (rule : OptionRule) (name : String) (attached : Option Attached)
  /-- It looks like an option, but none is known. -/
  | unknown
deriving DecidableEq, Repr

namespace Command

/-- The options of a command. -/
def options : Command → List OptionRule
  | mk options _ _ => options

/-- The name of the choice between the commands below. -/
def choice : Command → String
  | mk _ choice _ => choice

/-- The commands below a command. -/
def commands : Command → List (String × Command)
  | mk _ _ commands => commands

/-- Every name of an option, with the option. -/
def names (c : Command) : List (String × OptionRule) :=
  c.options.flatMap fun rule => rule.names.map fun name => (name, rule)

/-- The option with a name. -/
def option? (c : Command) (name : String) : Option OptionRule :=
  (c.names.find? fun (known, _) => known == name).map Prod.snd

/-- An argument cut at its first equals sign. -/
def cutValue (arg : String) : String × Option Attached :=
  match Text.cut? ['='] arg.toList with
  | some (name, value) => (String.ofList name, some ⟨"=", String.ofList value⟩)
  | none => (arg, none)

/-- The options whose name an argument may abbreviate. -/
def candidates (c : Command) (arg : String) : List (String × Mark) :=
  if arg.startsWith "--" then
    let (start, attached) := cutValue arg
    c.names.filterMap fun (name, rule) =>
      if name.startsWith start then some (name, .option rule name attached) else none
  else
    let letter := String.ofList (arg.toList.take 2)
    c.names.filterMap fun (name, rule) =>
      if name == letter then
        some (name, .option rule name (some ⟨"", String.ofList (arg.toList.drop 2)⟩))
      else if name.startsWith arg then some (name, .option rule name none)
      else none

/-- Whether an argument is a negative number: digits after a minus, possibly with a point before
the last of them.  It may end with a line end. -/
def isNegativeNumber (arg : String) : Bool :=
  match arg.toList with
  | '-' :: size =>
    let size := if size.getLast? == some '\n' then size.dropLast else size
    let whole := size.takeWhile Text.isDigit
    match size.dropWhile Text.isDigit with
    | [] => !whole.isEmpty
    | '.' :: fraction => !fraction.isEmpty && fraction.all Text.isDigit
    | _ => false
  | _ => false

/-- What an argument is. -/
def markOne (c : Command) (arg : String) : Except Complaint Mark :=
  if arg.toList.head? != some '-' then .ok .plain
  else
    match c.option? arg with
    | some rule => .ok (.option rule arg none)
    | none =>
      if arg == "-" then .ok .plain
      else
        let (name, attached) := cutValue arg
        match attached, c.option? name with
        | some _, some rule => .ok (.option rule name attached)
        | _, _ =>
          match c.candidates arg with
          | [(_, mark)] => .ok mark
          | [] => .ok (if isNegativeNumber arg || arg.contains ' ' then .plain else .unknown)
          | several => .error (.ambiguous arg (several.map Prod.fst))

/-- What the arguments are. -/
def mark (c : Command) : List String → Except Complaint (List (String × Mark))
  | [] => .ok []
  | arg :: rest =>
    if arg == "--" then .ok ((arg, .separator) :: rest.map fun other => (other, .plain))
    else do
      let first ← c.markOne arg
      return (arg, first) :: (← c.mark rest)

end Command

/-! ## Values -/

/-- What has been read of a command line. -/
structure Arguments where
  /-- The values of options, by their longest name. -/
  options : Fields Value := []
  /-- The commands chosen, by the name of the choice. -/
  commands : Fields String := []
  /-- What nothing is known about. -/
  unrecognized : List String := []
deriving Inhabited

namespace OptionRule

/-- The name under which the value of an option is kept. -/
def key (rule : OptionRule) : String := rule.names.getLastD ""

/-- The name of an option in complaints. -/
def title (rule : OptionRule) : String := String.intercalate "/" rule.names

/-- A complaint about an option. -/
def complain (rule : OptionRule) (problem : Problem) : Complaint := .argument rule.title problem

/-- Whether an option takes a value. -/
def takesValue (rule : OptionRule) : Bool :=
  match rule.accepts with
  | .nothing | .help => false
  | _ => true

/-- The value that a text gives an option. -/
def valueOf (rule : OptionRule) (text : String) : Except Complaint Value :=
  match rule.accepts with
  | .oneOf choices =>
    if choices.contains text then .ok (.text text)
    else .error (rule.complain (.noChoice text choices))
  | .integer =>
    match integerDigits? text.toList with
    | some (negative, digits) =>
      if digitLimit < digits.length then .error (rule.complain (.noInteger text))
      else
        let n : Int := Text.readDigits digits
        .ok (.int (if negative then -n else n))
    | none => .error (rule.complain (.noInteger text))
  | _ => .ok (.text text)

end OptionRule

namespace Command

/-- The letters that follow a one-letter option without a value are such options themselves: those
that are known, and the argument that the first unknown one makes. -/
def letters (c : Command) (rule : OptionRule) : List Char →
    Except Complaint (List OptionRule × Option String)
  | [] => .ok ([], none)
  | '-' :: cs => .error (rule.complain (.valueIgnored (String.ofList ('-' :: cs))))
  | letter :: cs =>
    match c.option? (String.ofList ['-', letter]) with
    | none => .ok ([], some (String.ofList ('-' :: letter :: cs)))
    | some next =>
      match cs with
      | '=' :: value => .error (next.complain (.valueIgnored (String.ofList value)))
      | _ => do
        let (more, unknown) ← letters c next cs
        return (next :: more, unknown)

/-- The options that an argument gives without a value. -/
def flags (c : Command) (rule : OptionRule) (name : String) (attached : Option Attached) :
    Except Complaint (List OptionRule × Option String) :=
  match attached with
  | none => .ok ([rule], none)
  | some a =>
    if name.startsWith "--" || a.mark == "=" || a.value.isEmpty then
      .error (rule.complain (.valueIgnored a.value))
    else do
      let (more, unknown) ← c.letters rule a.value.toList
      return (rule :: more, unknown)

/-- Sets options that take no value; one of them may ask for help instead. -/
def setFlags (a : Arguments) : List OptionRule → Option Arguments
  | [] => some a
  | rule :: rest =>
    if rule.accepts = .help then none
    else setFlags { a with options := a.options.set rule.key (.bool true) } rest

/-- Gives options their values.  With commands below, the arguments from the first that belongs to
none are left over. -/
def take (c : Command) (program : String) (a : Arguments) :
    List (String × Mark) → Except Refused (Arguments × List String)
  | [] => .ok (a, [])
  | (arg, .plain) :: rest =>
    if c.commands.isEmpty then
      take c program { a with unrecognized := a.unrecognized ++ [arg] } rest
    else .ok (a, arg :: rest.map Prod.fst)
  | (arg, .separator) :: rest =>
    let all := arg :: rest.map Prod.fst
    if c.commands.isEmpty || rest.isEmpty then
      .ok ({ a with unrecognized := a.unrecognized ++ all }, [])
    else .ok (a, all)
  | (arg, .unknown) :: rest =>
    take c program { a with unrecognized := a.unrecognized ++ [arg] } rest
  | (_, .option rule name attached) :: rest =>
    if rule.takesValue then
      let keep (text : String) : Except Refused Arguments :=
        match rule.valueOf text with
        | .ok v => .ok { a with options := a.options.set rule.key v }
        | .error e => .error (.wrong program e)
      match attached with
      | some given => do take c program (← keep given.value) rest
      | none =>
        match rest with
        | (text, .plain) :: after => do take c program (← keep text) after
        | _ => .error (.wrong program (rule.complain .valueMissing))
    else
      match c.flags rule name attached with
      | .error e => .error (.wrong program e)
      | .ok (rules, unknown) =>
        match setFlags a rules with
        | none => .error .help
        | some a => take c program { a with unrecognized := a.unrecognized ++ unknown.toList } rest

/-- Reads arguments, at most so many levels of commands deep. -/
def readWithin : Nat → Command → String → Arguments → List String → Except Refused Arguments
  | 0, _, _, a, args => .ok { a with unrecognized := a.unrecognized ++ args }
  | levels + 1, c, program, a, args => do
    let marked ← (c.mark args).mapError (Refused.wrong program)
    match ← c.take program a marked with
    | (a, []) => return a
    | (a, name :: rest) =>
      match c.commands.find? fun (known, _) => known == name with
      | some (_, command) =>
        readWithin levels command (program ++ " " ++ name)
          { a with commands := a.commands.set c.choice name } rest
      | none =>
        throw (.wrong program (.argument c.choice (.noChoice name (c.commands.map Prod.fst))))

/-- Reads the arguments of a program.  Every level of commands takes an argument. -/
def read (c : Command) (program : String) (args : List String) : Except Refused Arguments := do
  let a ← readWithin (args.length + 1) c program {} args
  if a.unrecognized.isEmpty then return a
  else throw (.wrong program (.unrecognized a.unrecognized))

end Command

namespace Arguments

/-- The text given for an option, unless it is empty. -/
def text? (a : Arguments) (name : String) : Option String :=
  match a.options.get? name with
  | some (.text s) => if s.isEmpty then none else some s
  | _ => none

/-- The integer given for an option. -/
def integer? (a : Arguments) (name : String) : Option Int :=
  match a.options.get? name with
  | some (.int n) => some n
  | _ => none

/-- Whether an option without a value is given. -/
def given (a : Arguments) (name : String) : Bool := a.options.has name

/-- The command chosen. -/
def command? (a : Arguments) (choice : String) : Option String := a.commands.get? choice

end Arguments
end CommandLine
end RecordRules
