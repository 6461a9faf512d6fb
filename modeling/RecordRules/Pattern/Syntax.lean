import RecordRules.Text.Quoted

/-!
# Patterns of text

`Node` is a part of a pattern: a character or a set of them, an anchor, a group, a repetition,
alternatives, an assertion or a reference to what a group matched.

`widthOfAll` is how many characters a pattern can match; a pattern that looks behind needs one
fixed width.  `Error` is why a text is no pattern.
-/

set_option autoImplicit false

namespace RecordRules
namespace Pattern

/-- What can be switched on within a pattern. -/
inductive Flag where
  | ignoreCase
  | locale
  | multiline
  | dotAll
  | verbose
  | ascii
  | template
  | unicode
deriving DecidableEq, Repr

/-- The flag of a letter. -/
def Flag.ofLetter? : Char → Option Flag
  | 'i' => some .ignoreCase
  | 'L' => some .locale
  | 'm' => some .multiline
  | 's' => some .dotAll
  | 'x' => some .verbose
  | 'a' => some .ascii
  | 't' => some .template
  | 'u' => some .unicode
  | _ => none

/-- Whether a flag says which characters the classes take. -/
def Flag.isType : Flag → Bool
  | .ascii | .locale | .unicode => true
  | _ => false

/-- The classes of characters. -/
inductive Class where
  | digit
  | space
  | word
deriving DecidableEq, Repr

/-- A member of a set of characters, which are given by their code points. -/
inductive SetItem where
  | code (n : Nat)
  | range (low high : Nat)
  | ofClass (complement : Bool) (k : Class)
deriving DecidableEq, Repr

/-- A place in the text that an anchor asks for. -/
inductive Anchor where
  | lineStart
  | lineEnd
  | textStart
  | textEnd
  | boundary
  | notBoundary
deriving DecidableEq, Repr

/-- In which order a repetition tries its counts, and whether it tries others at all. -/
inductive Mode where
  | greedy
  | lazy
  | possessive
deriving DecidableEq, Repr

/-- The syntax of patterns: a pattern is a list of parts that follow one another. -/
inductive Node where
  | code (n : Nat)
  | otherThan (n : Nat)
  | any
  | set (negated : Bool) (items : List SetItem)
  | anchor (a : Anchor)
  /-- A group, captured if it has a number, with the flags that it switches on and off. -/
  | group (index : Option Nat) (on off : List Flag) (body : List Node)
  | atomic (body : List Node)
  | repeated (mode : Mode) (min : Nat) (max : Option Nat) (body : List Node)
  | branch (ways : List (List Node))
  | look (ahead negated : Bool) (body : List Node)
  | backref (index : Nat)
  | ifGroup (index : Nat) (yes no : List Node)
deriving Inhabited

/-- Whether two parts are the same character, set, anchor or reference.  Parts that hold patterns
of their own count as different. -/
def Node.sameAs : Node → Node → Bool
  | .code a, .code b | .otherThan a, .otherThan b | .backref a, .backref b => a == b
  | .any, .any => true
  | .set m items, .set n others => m == n && items == others
  | .anchor a, .anchor b => a == b
  | _, _ => false

/-! ## Widths -/

/-- The least and the greatest number of characters.  From `widthLimit` on the greatest is
unbounded. -/
structure Width where
  min : Nat
  max : Nat
deriving DecidableEq, Repr, Inhabited

/-- No text is as long as this. -/
def widthLimit : Nat := 4294967295

/-- The width of nothing. -/
def Width.zero : Width := ⟨0, 0⟩

/-- A width within the limit. -/
def Width.limited (w : Width) : Width := ⟨Nat.min w.min (widthLimit - 1), Nat.min w.max widthLimit⟩

/-- The width of one pattern after the other. -/
def Width.add (a b : Width) : Width := ⟨a.min + b.min, a.max + b.max⟩

/-- The width of one pattern or the other. -/
def Width.either (a b : Width) : Width := ⟨Nat.min a.min b.min, Nat.max a.max b.max⟩

/-- The width of a repetition. -/
def Width.times (w : Width) (min : Nat) (max : Option Nat) : Width :=
  ⟨w.min * min, w.max * max.getD widthLimit⟩

mutual

/-- How many characters a part can match, given the widths of the groups. -/
def Node.width (groups : Nat → Width) : Node → Width
  | .code _ | .otherThan _ | .any | .set _ _ => ⟨1, 1⟩
  | .anchor _ | .look _ _ _ => .zero
  | .group _ _ _ body | .atomic body => (sumOfWidths groups body).limited
  | .repeated _ min max body => (sumOfWidths groups body).limited.times min max
  | .branch ways => widthOfAny groups ways
  | .backref index => groups index
  | .ifGroup _ yes no => (sumOfWidths groups yes).limited.either (sumOfWidths groups no).limited

/-- The widths of the parts of a pattern together. -/
def sumOfWidths (groups : Nat → Width) : List Node → Width
  | [] => .zero
  | node :: rest => (node.width groups).add (sumOfWidths groups rest)

/-- The width of alternatives. -/
def widthOfAny (groups : Nat → Width) : List (List Node) → Width
  | [] => ⟨widthLimit - 1, 0⟩
  | way :: rest => (sumOfWidths groups way).limited.either (widthOfAny groups rest)

end

/-- The width of a pattern. -/
def widthOfAll (groups : Nat → Width) (nodes : List Node) : Width :=
  (sumOfWidths groups nodes).limited

/-! ## Errors -/

/-- Why a text is no pattern, or a pattern cannot be matched. -/
inductive Cause where
  | escapeAtEnd
  | badEscape (escape : String)
  | incompleteEscape (escape : String)
  | octalTooLarge (escape : String)
  | unknownCharacterName (name : String)
  | missing (what : String)
  | unterminatedName (terminator : String)
  | unterminatedSet
  | badRange (low high : String)
  | minAboveMax
  | repetitionTooLarge
  | tooManyDigits (count : Nat)
  | nothingToRepeat
  | multipleRepeat
  | unexpectedEnd
  | badGroupName (name : String)
  | unknownGroupName (name : String)
  | redefinedGroup (name : String) (new old : Nat)
  | openGroup
  | groupInLookbehind
  | badGroupNumber
  | invalidGroup (index : Nat)
  | unknownExtension (text : String)
  | unterminatedComment
  | unterminatedSubpattern
  | tooManyBranches
  | misplacedGlobalFlags
  | unknownFlag
  | localeFlag
  | incompatibleFlags
  | globalFlagOn
  | typeFlagOff
  | globalFlagOff
  | flagOnAndOff
  | conflictingTypes
  | unbalanced
  | lookbehindWidth
  | repeatedTemplate (mode : Mode)
  | wrongSpan
deriving DecidableEq, Repr

/-- The wording of a cause. -/
def Cause.message : Cause → String
  | .escapeAtEnd => "bad escape (end of pattern)"
  | .badEscape escape => "bad escape " ++ escape
  | .incompleteEscape escape => "incomplete escape " ++ escape
  | .octalTooLarge escape => s!"octal escape value {escape} outside of range 0-0o377"
  | .unknownCharacterName name => "undefined character name " ++ Text.quoted name
  | .missing what => "missing " ++ what
  | .unterminatedName terminator => s!"missing {terminator}, unterminated name"
  | .unterminatedSet => "unterminated character set"
  | .badRange low high => s!"bad character range {low}-{high}"
  | .minAboveMax => "min repeat greater than max repeat"
  | .repetitionTooLarge => "the repetition number is too large"
  | .tooManyDigits count =>
    s!"Exceeds the limit (4300 digits) for integer string conversion: value has {count} digits; " ++
      "use sys.set_int_max_str_digits() to increase the limit"
  | .nothingToRepeat => "nothing to repeat"
  | .multipleRepeat => "multiple repeat"
  | .unexpectedEnd => "unexpected end of pattern"
  | .badGroupName name => "bad character in group name " ++ Text.quoted name
  | .unknownGroupName name => "unknown group name " ++ Text.quoted name
  | .redefinedGroup name new old =>
    "redefinition of group name " ++ Text.quoted name ++ s!" as group {new}; was group {old}"
  | .openGroup => "cannot refer to an open group"
  | .groupInLookbehind => "cannot refer to group defined in the same lookbehind subpattern"
  | .badGroupNumber => "bad group number"
  | .invalidGroup index => s!"invalid group reference {index}"
  | .unknownExtension text => "unknown extension " ++ text
  | .unterminatedComment => "missing ), unterminated comment"
  | .unterminatedSubpattern => "missing ), unterminated subpattern"
  | .tooManyBranches => "conditional backref with more than two branches"
  | .misplacedGlobalFlags => "global flags not at the start of the expression"
  | .unknownFlag => "unknown flag"
  | .localeFlag => "bad inline flags: cannot use 'L' flag with a str pattern"
  | .incompatibleFlags => "bad inline flags: flags 'a', 'u' and 'L' are incompatible"
  | .globalFlagOn => "bad inline flags: cannot turn on global flag"
  | .typeFlagOff => "bad inline flags: cannot turn off flags 'a', 'u' and 'L'"
  | .globalFlagOff => "bad inline flags: cannot turn off global flag"
  | .flagOnAndOff => "bad inline flags: flag turned on and off"
  | .conflictingTypes => "ASCII and UNICODE flags are incompatible"
  | .unbalanced => "unbalanced parenthesis"
  | .lookbehindWidth => "look-behind requires fixed-width pattern"
  | .wrongSpan =>
    "The span of capturing group is wrong, please report a bug for the re module."
  | .repeatedTemplate .greedy => "internal: unsupported template operator MAX_REPEAT"
  | .repeatedTemplate .lazy => "internal: unsupported template operator MIN_REPEAT"
  | .repeatedTemplate .possessive => "internal: unsupported template operator POSSESSIVE_REPEAT"

/-- A cause, and where in the pattern it was met. -/
structure Error where
  cause : Cause
  position : Option Nat
deriving DecidableEq, Repr

/-- The wording of an error.  In a pattern of several lines the line and column are given too. -/
def Error.message (pattern : List Char) (e : Error) : String :=
  match e.position with
  | none => e.cause.message
  | some n =>
    let text := e.cause.message ++ s!" at position {n}"
    if pattern.contains '\n' then
      let before := pattern.take n
      let line := before.count '\n' + 1
      let column := (before.reverse.takeWhile (· != '\n')).length + 1
      text ++ s!" (line {line}, column {column})"
    else text

end Pattern
end RecordRules
