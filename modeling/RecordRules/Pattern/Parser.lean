import RecordRules.Pattern.Syntax
import RecordRules.Value.Fields
import RecordRules.Number.Reading
import RecordRules.Text.Identifier
import RecordRules.Text.Name

/-!
# Reading patterns

`read` reads a text as a pattern, or says what is wrong with it and where.  The text is read by
tokens: a character, or a backslash with the character after it.

Every step of the reader takes a token or follows one that did, so a multiple of the length of the
text bounds their number.
-/

set_option autoImplicit false

namespace RecordRules
namespace Pattern

/-- A character, possibly after a backslash. -/
structure Token where
  escaped : Bool
  char : Char
deriving DecidableEq, Repr

/-- The text of a token. -/
def Token.chars (t : Token) : List Char := if t.escaped then ['\\', t.char] else [t.char]

/-- The text of a token. -/
def Token.text (t : Token) : String := String.ofList t.chars

/-- A token that is a plain character. -/
def Token.isPlain (t : Token) (c : Char) : Bool := !t.escaped && t.char == c

/-- Where the reader stands and what it has seen. -/
structure Source where
  pattern : List Char
  /-- The position behind the next token. -/
  index : Nat
  /-- The next token; nothing at the end. -/
  next : Option Token
  /-- The flags switched on for the whole pattern. -/
  flags : List Flag := []
  /-- The numbers of the named groups. -/
  names : Fields Nat := []
  /-- The widths of the groups from number one on; nothing while a group is open. -/
  widths : List (Option Width) := []
  /-- Within a pattern that looks behind, the number of groups before it. -/
  lookbehind : Option Nat := none
  /-- Where a group is referred to by number before it is known. -/
  pending : List (Nat × Nat) := []

/-- A step of the reader. -/
abbrev Parser := StateT Source (Except Error)

/-- The position of the next token. -/
def Source.position (s : Source) : Nat :=
  s.index - ((s.next.map fun t => t.chars.length).getD 0)

/-- Fails with a cause at a position. -/
def failAt {α : Type} (cause : Cause) (position : Nat) : Parser α :=
  throw ⟨cause, some position⟩

/-- Fails with a cause at so many characters before the next token. -/
def failBack {α : Type} (cause : Cause) (offset : Nat) : Parser α := do
  failAt cause ((← get).position - offset)

/-- The position of the next token. -/
def position : Parser Nat := return (← get).position

/-- The next token. -/
def peek : Parser (Option Token) := return (← get).next

/-- Goes on to the next token. -/
def advance : Parser Unit := do
  let s ← get
  match s.pattern.drop s.index with
  | [] => set { s with next := none }
  | ['\\'] => failAt .escapeAtEnd (s.pattern.length - 1)
  | '\\' :: c :: _ => set { s with index := s.index + 2, next := some ⟨true, c⟩ }
  | c :: _ => set { s with index := s.index + 1, next := some ⟨false, c⟩ }

/-- Takes the next token. -/
def take : Parser (Option Token) := do
  let t ← peek
  advance
  return t

/-- Takes the next token if it is the given character. -/
def takeIf (c : Char) : Parser Bool := do
  match ← peek with
  | some t =>
    if t.isPlain c then
      advance
      return true
    else return false
  | none => return false

/-- Goes back to a position. -/
def seek (index : Nat) : Parser Unit := do
  modify fun s => { s with index := index }
  advance

/-- Takes at most `n` characters of a class. -/
def takeWhile (accepts : Char → Bool) : Nat → Parser (List Char)
  | 0 => return []
  | n + 1 => do
    match ← peek with
    | some t =>
      if !t.escaped && accepts t.char then
        advance
        return t.char :: (← takeWhile accepts n)
      else return []
    | none => return []

/-- Takes everything up to a terminator, and the terminator. -/
def takeUntil (terminator : Char) (what : String) : Nat → List Char → Parser (List Char)
  | 0, _ => failBack (.missing what) 0
  | n + 1, before => do
    match ← take with
    | none =>
      if before.isEmpty then failBack (.missing what) 0
      else failBack (.unterminatedName (String.singleton terminator)) before.length
    | some t =>
      if t.isPlain terminator then
        if before.isEmpty then failBack (.missing what) 1 else return before
      else takeUntil terminator what n (before ++ t.chars)

/-- A bound for the number of tokens. -/
def tokenBound : Parser Nat := return (← get).pattern.length + 1

/-- Everything up to a terminator, as a text. -/
def nameUntil (terminator : Char) (what : String) : Parser String := do
  return String.ofList (← takeUntil terminator what (← tokenBound) [])

/-! ## Escapes -/

/-- Whether a character is a hexadecimal digit. -/
def isHexDigit (c : Char) : Bool :=
  c.isDigit || ('a' ≤ c && c ≤ 'f') || ('A' ≤ c && c ≤ 'F')

/-- Whether a character is an octal digit. -/
def isOctalDigit (c : Char) : Bool := '0' ≤ c && c ≤ '7'

/-- The value of a digit in a base up to sixteen. -/
def digitOf (c : Char) : Nat :=
  if c.isDigit then c.toNat - 0x30
  else if 'a' ≤ c then c.toNat - 0x57
  else c.toNat - 0x37

/-- The number that digits write in a base. -/
def numberIn (base : Nat) (cs : List Char) : Nat := cs.foldl (fun n c => n * base + digitOf c) 0

/-- The code points with an escape of their own. -/
def controlEscape? : Char → Option Nat
  | 'a' => some 7
  | 'b' => some 8
  | 'f' => some 12
  | 'n' => some 10
  | 'r' => some 13
  | 't' => some 9
  | 'v' => some 11
  | '\\' => some 0x5C
  | _ => none

/-- The class of characters that an escape stands for. -/
def classEscape? : Char → Option SetItem
  | 'd' => some (.ofClass false .digit)
  | 'D' => some (.ofClass true .digit)
  | 's' => some (.ofClass false .space)
  | 'S' => some (.ofClass true .space)
  | 'w' => some (.ofClass false .word)
  | 'W' => some (.ofClass true .word)
  | _ => none

/-- The anchor that an escape stands for. -/
def anchorEscape? : Char → Option Anchor
  | 'A' => some .textStart
  | 'b' => some .boundary
  | 'B' => some .notBoundary
  | 'Z' => some .textEnd
  | _ => none

/-- The text of an escape. -/
def escapeText (cs : List Char) : String := String.ofList ('\\' :: cs)

/-- A code point by a fixed number of hexadecimal digits. -/
def hexEscape (letter : Char) (width : Nat) : Parser Nat := do
  let digits ← takeWhile isHexDigit width
  let escape := letter :: digits
  if digits.length != width then
    failBack (.incompleteEscape (escapeText escape)) (escape.length + 1)
  else
    let n := numberIn 16 digits
    if n < 0x110000 then return n
    else failBack (.badEscape (escapeText escape)) (escape.length + 1)

/-- A code point by the name of its character. -/
def namedEscape : Parser Nat := do
  if ← takeIf '\x7b' then
    let name ← nameUntil '\x7d' "character name"
    match Text.ofName? name with
    | some c => return c.toNat
    | none => failBack (.unknownCharacterName name) (name.length + 4)
  else failBack (.missing "\x7b") 0

/-- A code point by up to three octal digits. -/
def octalEscape (digits : List Char) : Parser Nat := do
  let n := numberIn 8 digits
  if 0o377 < n then failBack (.octalTooLarge (escapeText digits)) (digits.length + 1)
  else return n

/-- A code point that an escape stands for wherever it occurs, or an error. -/
def commonEscape (c : Char) : Parser Nat := do
  if c == 'x' then hexEscape c 2
  else if c == 'u' then hexEscape c 4
  else if c == 'U' then hexEscape c 8
  else if c == 'N' then namedEscape
  else if c.isDigit || c.isAlpha then failBack (.badEscape (escapeText [c])) 2
  else return c.toNat

/-- An escape within a set of characters. -/
def setEscape (c : Char) : Parser SetItem := do
  match controlEscape? c with
  | some n => return .code n
  | none =>
    match classEscape? c with
    | some item => return item
    | none =>
      if isOctalDigit c then
        let more ← takeWhile isOctalDigit 2
        return .code (← octalEscape (c :: more))
      else return .code (← commonEscape c)

/-- The number of groups so far. -/
def groupCount : Parser Nat := return (← get).widths.length

/-- Whether a group is closed. -/
def isClosed (index : Nat) : Parser Bool := do
  match (← get).widths[index - 1]? with
  | some (some _) => return true
  | _ => return false

/-- A pattern that looks behind can only refer to groups before it. -/
def checkLookbehind (index : Nat) : Parser Unit := do
  match (← get).lookbehind with
  | some known =>
    if !(← isClosed index) then failBack .openGroup 0
    else if known < index then failBack .groupInLookbehind 0
    else return ()
  | none => return ()

/-- A reference to a group by its number; `digits` are those of the escape. -/
def reference (digits : List Char) : Parser Node := do
  let index := numberIn 10 digits
  if index ≤ (← groupCount) then
    if !(← isClosed index) then failBack .openGroup (digits.length + 1)
    else
      checkLookbehind index
      return .backref index
  else failBack (.invalidGroup index) digits.length

/-- A digit from one on after a backslash: a character by three octal digits, or a reference. -/
def digitEscape (c : Char) : Parser Node := do
  match ← takeWhile Char.isDigit 1 with
  | [d] =>
    if isOctalDigit c && isOctalDigit d then
      match ← takeWhile isOctalDigit 1 with
      | [e] => return .code (← octalEscape [c, d, e])
      | _ => reference [c, d]
    else reference [c, d]
  | _ => reference [c]

/-- An escape outside a set of characters. -/
def escape (c : Char) : Parser Node := do
  match anchorEscape? c with
  | some a => return .anchor a
  | none =>
    match classEscape? c with
    | some item => return .set false [item]
    | none =>
      match controlEscape? c with
      | some n => return .code n
      | none =>
        if c == '0' then
          let more ← takeWhile isOctalDigit 2
          return .code (numberIn 8 more)
        else if c.isDigit then digitEscape c
        else return .code (← commonEscape c)

/-! ## Sets of characters -/

/-- The member of a set that a token stands for. -/
def setItem (t : Token) : Parser SetItem :=
  if t.escaped then setEscape t.char else return .code t.char.toNat

/-- The end of a range, or the sole member if there is no range.  The flag says whether the set
ends here. -/
def rangeFrom (start : Nat) (t : Token) (low : SetItem) : Parser (List SetItem × Bool) := do
  if ← takeIf '-' then
    match ← take with
    | none => do
      failAt .unterminatedSet start
    | some u =>
      if u.isPlain ']' then return ([low, .code 0x2D], true)
      else
        let high ← setItem u
        let bad : Parser (List SetItem × Bool) :=
          failBack (.badRange t.text u.text) (t.chars.length + 1 + u.chars.length)
        match low, high with
        | .code a, .code b => if b < a then bad else return ([.range a b], false)
        | _, _ => bad
  else return ([low], false)

/-- The members of a set up to its closing bracket; a bracket at the start is a member. -/
def setItems (start : Nat) : Nat → List SetItem → Parser (List SetItem)
  | 0, _ => failAt .unterminatedSet start
  | n + 1, before => do
    match ← take with
    | none => failAt .unterminatedSet start
    | some t =>
      if t.isPlain ']' && !before.isEmpty then return before
      else
        let low ← setItem t
        let (items, done) ← rangeFrom start t low
        if done then return before ++ items else setItems start n (before ++ items)

/-- A set of characters, whose opening bracket was read.  A set of one character is that
character, or any other. -/
def setNode : Parser Node := do
  let start := (← position) - 1
  let negated ← takeIf '^'
  let items := (← setItems start (← tokenBound) []).eraseDups
  match items with
  | [.code n] => return if negated then .otherThan n else .code n
  | _ => return .set negated items

/-! ## Repetitions -/

/-- The most digits that a number is read from. -/
def digitLimit : Nat := 4300

/-- A bound of a repetition, which has to be below the greatest width of a text. -/
def repeatBound (digits : List Char) : Parser Nat := do
  if digitLimit < digits.length then throw ⟨.tooManyDigits digits.length, none⟩
  let n := numberIn 10 digits
  if widthLimit ≤ n then throw ⟨.repetitionTooLarge, none⟩ else return n

/-- The counts between braces, if that is what they are: `{m}`, `{m,}`, `{,n}` or `{m,n}`. -/
def braceCounts (here : Nat) : Parser (Option (Nat × Option Nat)) := do
  if (← peek) = some ⟨false, '\x7d'⟩ then return none
  let bound ← tokenBound
  let low ← takeWhile Char.isDigit bound
  let comma ← takeIf ','
  let high ← if comma then takeWhile Char.isDigit bound else pure low
  if ← takeIf '\x7d' then
    let min ← repeatBound low
    let max ← if high.isEmpty then pure none else some <$> repeatBound high
    if max.any (· < min) then failBack .minAboveMax ((← position) - here)
    else return some (min, max)
  else
    seek here
    return none

/-- The counts of a repetition mark, if that is what a character is. -/
def repeatCounts (here : Nat) (c : Char) : Parser (Option (Nat × Option Nat)) :=
  if c == '?' then return some (0, some 1)
  else if c == '*' then return some (0, none)
  else if c == '+' then return some (1, none)
  else braceCounts here

/-- The way a repetition is tried. -/
def repeatMode : Parser Mode := do
  if ← takeIf '?' then return .lazy
  else if ← takeIf '+' then return .possessive
  else return .greedy

/-- The parts that a part stands for: those of a group that is not captured and switches
nothing. -/
def Node.opened : Node → List Node
  | .group none [] [] body => body
  | node => [node]

/-- Repeats the last part of a sequence, which stands first. -/
def repeatLast (here : Nat) (min : Nat) (max : Option Nat) : List Node → Parser (List Node)
  | [] => do failBack .nothingToRepeat ((← position) - here + 1)
  | .anchor _ :: _ => do failBack .nothingToRepeat ((← position) - here + 1)
  | .repeated _ _ _ _ :: _ => do failBack .multipleRepeat ((← position) - here + 1)
  | node :: before => do return .repeated (← repeatMode) min max node.opened :: before

/-! ## Flags -/

/-- Flags that are switched on, up to the character that ends them. -/
def flagsOn : Nat → List Flag → Char → Parser (List Flag × Char)
  | 0, _, _ => failBack .unexpectedEnd 0
  | n + 1, before, c => do
    match Flag.ofLetter? c with
    | none => failBack .unknownFlag 1
    | some .locale => failBack .localeFlag 0
    | some flag =>
      let flags := before ++ [flag]
      if flag.isType && flags.any fun f => f.isType && f != flag then
        failBack .incompatibleFlags 0
      else
        match ← take with
        | none => failBack (.missing "-, : or )") 0
        | some t =>
          if !t.escaped && [')', '-', ':'].contains t.char then return (flags, t.char)
          else if !t.escaped && (Flag.ofLetter? t.char).isSome then flagsOn n flags t.char
          else if !t.escaped && Text.isLetter t.char then failBack .unknownFlag t.chars.length
          else failBack (.missing "-, : or )") t.chars.length

/-- Flags that are switched off, up to the colon. -/
def flagsOff (ending : String) : Nat → List Flag → Parser (List Flag)
  | 0, _ => failBack .unexpectedEnd 0
  | n + 1, before => do
    match ← take with
    | none => failBack (.missing ending) 0
    | some t =>
      if t.isPlain ':' && !before.isEmpty then return before
      else
        match if t.escaped then none else Flag.ofLetter? t.char with
        | none =>
          if !t.escaped && Text.isLetter t.char then failBack .unknownFlag t.chars.length
          else failBack (.missing ending) t.chars.length
        | some flag =>
          if flag.isType then failBack .typeFlagOff 0
          else flagsOff ":" n (before ++ [flag])

/-- The flags at the start of a group, whose first character was read: those switched on and off
in the group, or nothing if they are for the whole pattern. -/
def inlineFlags (c : Char) : Parser (Option (List Flag × List Flag)) := do
  let bound ← tokenBound
  let (on, ending) ← if c == '-' then pure ([], '-') else flagsOn bound [] c
  if ending == ')' then
    modify fun s => { s with flags := s.flags ++ on }
    return none
  else if on.contains .template then failBack .globalFlagOn 1
  else
    let off ← if ending == '-' then flagsOff "flag" bound [] else pure []
    if off.contains .template then failBack .globalFlagOff 1
    else if on.any off.contains then failBack .flagOnAndOff 1
    else return some (on, off)

/-! ## Groups -/

/-- Whether a text can name a group. -/
def isGroupName (name : String) : Bool := Text.isIdentifier name.toList

/-- A name of a group, up to its terminator. -/
def groupName (terminator : Char) : Parser String := do
  let name ← nameUntil terminator "group name"
  if isGroupName name then return name
  else failBack (.badGroupName name) (name.length + 1)

/-- Opens a group, and gives it a number. -/
def openGroup (name : Option String) : Parser Nat := do
  let index := (← groupCount) + 1
  match name with
  | none => pure ()
  | some text =>
    match (← get).names.get? text with
    | some old => failBack (.redefinedGroup text index old) (text.length + 1)
    | none => modify fun s => { s with names := s.names.set text index }
  modify fun s => { s with widths := s.widths ++ [none] }
  return index

/-- The widths of the groups so far. -/
def Source.groupWidth (s : Source) (index : Nat) : Width :=
  ((s.widths[index - 1]?).getD none).getD .zero

/-- Closes a group. -/
def closeGroup (index : Nat) (body : List Node) : Parser Unit :=
  modify fun s =>
    { s with widths := s.widths.set (index - 1) (some (widthOfAll s.groupWidth body)) }

/-- A reference to a group by its name. -/
def namedReference : Parser Node := do
  let name ← groupName ')'
  match (← get).names.get? name with
  | none => failBack (.unknownGroupName name) (name.length + 1)
  | some index =>
    if !(← isClosed index) then failBack .openGroup (name.length + 1)
    else
      checkLookbehind index
      return .backref index

/-- The number of groups is below this. -/
def groupLimit : Nat := 1073741823

/-- The number of a group: an integer that is not negative. -/
def groupNumber? (name : String) : Option Nat := do
  let (negative, digits) ← integerDigits? name.toList
  let n := Text.readDigits digits
  if digitLimit < digits.length || (negative && n != 0) then none else some n

/-- The group that a condition asks for, by name or number. -/
def conditionGroup : Parser Nat := do
  let name ← nameUntil ')' "group name"
  let index ←
    if isGroupName name then
      match (← get).names.get? name with
      | some index => pure index
      | none => failBack (.unknownGroupName name) (name.length + 1)
    else
      match groupNumber? name with
      | none => failBack (.badGroupName name) (name.length + 1)
      | some 0 => failBack .badGroupNumber (name.length + 1)
      | some index =>
        if groupLimit ≤ index then failBack (.invalidGroup index) (name.length + 1)
        let here := (← position) - name.length - 1
        modify fun s =>
          if s.pending.any fun p => p.1 == index then s
          else { s with pending := s.pending ++ [(index, here)] }
        pure index
  checkLookbehind index
  return index

/-- Skips a comment up to its closing bracket. -/
def skipComment (start : Nat) : Nat → Parser Unit
  | 0 => failAt .unterminatedComment start
  | n + 1 => do
    match ← peek with
    | none => failAt .unterminatedComment start
    | some t =>
      advance
      if t.isPlain ')' then return () else skipComment start n

/-- Skips a comment up to the end of the line. -/
def skipLine : Nat → Parser Unit
  | 0 => return ()
  | n + 1 => do
    match ← take with
    | none => return ()
    | some t => if t.isPlain '\n' then return () else skipLine n

/-- A group up to its closing bracket has been read; the bracket must follow. -/
def closing (start : Nat) : Parser Unit := do
  if ← takeIf ')' then return () else failAt .unterminatedSubpattern start

/-- What stands at the start of a group. -/
inductive Opening where
  /-- The group is complete, and is this node, if any. -/
  | done (node : Option Node)
  | capture (name : Option String)
  | plain (on off : List Flag)
  | atomic
  | look (ahead negated : Bool)
  | condition (index : Nat)

/-- Reads the start of a group, whose opening bracket was read.  `bare` says that nothing stands
before it in the whole pattern. -/
def opening (start : Nat) (bare : Bool) : Parser Opening := do
  if !(← takeIf '?') then return .capture none
  match ← take with
  | none => failBack .unexpectedEnd 0
  | some t =>
    let unknown : Parser Opening :=
      failBack (.unknownExtension ("?" ++ t.text)) (t.chars.length + 1)
    if t.escaped then unknown
    else if t.char == 'P' then
      if ← takeIf '<' then return .capture (some (← groupName '>'))
      else if ← takeIf '=' then return .done (some (← namedReference))
      else
        match ← take with
        | none => failBack .unexpectedEnd 0
        | some u => failBack (.unknownExtension ("?P" ++ u.text)) (u.chars.length + 2)
    else if t.char == ':' then return .plain [] []
    else if t.char == '#' then
      skipComment start (← tokenBound)
      return .done none
    else if t.char == '=' then return .look true false
    else if t.char == '!' then return .look true true
    else if t.char == '<' then
      match ← take with
      | none => failBack .unexpectedEnd 0
      | some u =>
        if u.isPlain '=' then return .look false false
        else if u.isPlain '!' then return .look false true
        else failBack (.unknownExtension ("?<" ++ u.text)) (u.chars.length + 2)
    else if t.char == '(' then return .condition (← conditionGroup)
    else if t.char == '>' then return .atomic
    else if t.char == '-' || (Flag.ofLetter? t.char).isSome then
      match ← inlineFlags t.char with
      | none => if bare then return .done none else failAt .misplacedGlobalFlags start
      | some (on, off) => return .plain on off
    else unknown

/-! ## Patterns -/

/-- Whether blanks and comments do not count in a group. -/
def verboseWithin (verbose : Bool) (on off : List Flag) : Bool :=
  (verbose || on.contains .verbose) && !off.contains .verbose

/-- Whether the whole pattern was switched to ignoring blanks and comments. -/
def globallyVerbose : Parser Bool := return (← get).flags.contains .verbose

/-- Marks the groups so far while a pattern that looks behind is read. -/
def enterLook (ahead : Bool) : Parser (Option Nat) := do
  let outer := (← get).lookbehind
  if !ahead && outer.isNone then
    let known ← groupCount
    modify fun s => { s with lookbehind := some known }
  return outer

/-- The parts that all of the alternatives start with, and what follows them. -/
def commonStart : Nat → List (List Node) → List Node × List (List Node)
  | 0, ways => ([], ways)
  | n + 1, ways =>
    match ways with
    | (node :: _) :: _ =>
      if ways.all fun way => (way.head?.map node.sameAs).getD false then
        let (nodes, rest) := commonStart n (ways.map (·.drop 1))
        (node :: nodes, rest)
      else ([], ways)
    | _ => ([], ways)

/-- The members of a set that an alternative stands for: one character or a set of them. -/
def setMembers? : List Node → Option (List SetItem)
  | [.code n] => some [.code n]
  | [.set false items] => some items
  | _ => none

/-- Alternatives as a pattern.  What they all start with comes first; alternatives of one character
are a set. -/
def anyOf (ways : List (List Node)) : List Node :=
  match ways with
  | [way] => way
  | _ =>
    let (nodes, rest) := commonStart (ways.head?.map List.length |>.getD 0) ways
    match rest.mapM setMembers? with
    | some members => nodes ++ [.set false members.flatten.eraseDups]
    | none => nodes ++ [.branch rest]

mutual

/-- Alternatives, and within them sequences.  `nested` says that this is no whole pattern. -/
def alternatives : Nat → Bool → Bool → List (List Node) → Parser (List Node)
  | 0, _, _, _ => failBack .unexpectedEnd 0
  | steps + 1, verbose, nested, before => do
    let ways := before ++ [← sequence steps verbose (!nested && before.isEmpty) []]
    if ← takeIf '|' then
      let verbose ← if nested then pure verbose else globallyVerbose
      alternatives steps verbose nested ways
    else return anyOf ways

/-- A sequence up to a bar, a closing bracket or the end; its parts so far stand in reverse.
`first` says that it is the first of the whole pattern. -/
def sequence : Nat → Bool → Bool → List Node → Parser (List Node)
  | 0, _, _, _ => failBack .unexpectedEnd 0
  | steps + 1, verbose, first, before => do
    match ← peek with
    | none => return before.reverse.flatMap Node.opened
    | some t =>
      if t.isPlain '|' || t.isPlain ')' then return before.reverse.flatMap Node.opened
      advance
      if t.escaped then
        sequence steps verbose first ((← escape t.char) :: before)
      else if verbose && [' ', '\t', '\n', '\r', Char.ofNat 11, Char.ofNat 12].contains t.char then
        sequence steps verbose first before
      else if verbose && t.char == '#' then
        skipLine (← tokenBound)
        sequence steps verbose first before
      else if t.char == '[' then sequence steps verbose first ((← setNode) :: before)
      else if ['?', '*', '+', '\x7b'].contains t.char then
        let here ← position
        match ← repeatCounts here t.char with
        | none => sequence steps verbose first (.code t.char.toNat :: before)
        | some (min, max) => sequence steps verbose first (← repeatLast here min max before)
      else if t.char == '.' then sequence steps verbose first (.any :: before)
      else if t.char == '^' then sequence steps verbose first (.anchor .lineStart :: before)
      else if t.char == '$' then sequence steps verbose first (.anchor .lineEnd :: before)
      else if t.char == '(' then
        let start := (← position) - 1
        match ← opening start (first && before.isEmpty) with
        | .done none =>
          let verbose ← if first then (do return verbose || (← globallyVerbose)) else pure verbose
          sequence steps verbose first before
        | .done (some node) => sequence steps verbose first (node :: before)
        | .capture name =>
          let index ← openGroup name
          let body ← alternatives steps verbose true []
          closing start
          closeGroup index body
          sequence steps verbose first (.group (some index) [] [] body :: before)
        | .plain on off =>
          let body ← alternatives steps (verboseWithin verbose on off) true []
          closing start
          sequence steps verbose first (.group none on off body :: before)
        | .atomic =>
          let body ← alternatives steps verbose true []
          closing start
          sequence steps verbose first (.atomic body :: before)
        | .look ahead negated =>
          let outer ← enterLook ahead
          let body ← alternatives steps verbose true []
          modify fun s => { s with lookbehind := outer }
          closing start
          sequence steps verbose first (.look ahead negated body :: before)
        | .condition index =>
          let yes ← sequence steps verbose false []
          let no ←
            if ← takeIf '|' then
              let no ← sequence steps verbose false []
              if (← peek) = some ⟨false, '|'⟩ then failBack .tooManyBranches 0 else pure no
            else pure []
          closing start
          sequence steps verbose first (.ifGroup index yes no :: before)
      else sequence steps verbose first (.code t.char.toNat :: before)

end

/-! ## Whole patterns -/

/-- A pattern that was read: its parts, the flags for all of it, and the widths of its groups. -/
structure Reading where
  nodes : List Node
  flags : List Flag
  widths : List (Option Width)
deriving Inhabited

/-- The width of a group. -/
def Reading.groupWidth (r : Reading) (index : Nat) : Width :=
  ((r.widths[index - 1]?).getD none).getD .zero

/-- Reads a whole pattern. -/
def wholePattern : Parser (List Node) := do
  advance
  let nodes ← alternatives (4 * (← tokenBound) + 4) false false []
  let s ← get
  if s.flags.contains .ascii && s.flags.contains .unicode then throw ⟨.conflictingTypes, none⟩
  if s.next.isSome then failBack .unbalanced 0
  match s.pending.find? fun p => s.widths.length < p.1 with
  | some (index, here) => failAt (.invalidGroup index) here
  | none => return nodes

/-- Reads a text as a pattern. -/
def read (pattern : List Char) : Except Error Reading := do
  let (nodes, s) ← wholePattern.run { pattern := pattern, index := 0, next := none }
  return ⟨nodes, s.flags, s.widths⟩

end Pattern
end RecordRules
