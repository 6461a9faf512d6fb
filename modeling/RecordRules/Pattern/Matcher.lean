import RecordRules.Pattern.Program

/-!
# Matching patterns

`runAll` tries the ways in which steps can match from a position on, in the order that the pattern
prefers, and hands each to the rest of the match until that succeeds.

Beside the position a match keeps a `Memory`: the marks that groups have left, and the place that
was looked at last.  A way that fails leaves its memory behind, and what is tried next starts from
that: outside repetitions only the number of valid marks is taken back (`Memory.undo`), so a mark
of a way that failed can show in a group that is still open.

A repetition stops after a turn that moved nowhere, so the length of the text and the least count
bound its turns.

`Program.matches` asks for a match of a whole text.
-/

set_option autoImplicit false

namespace RecordRules
namespace Pattern

/-- Where a match stands: how many code points stand before, which ones, nearest first, and those
after. -/
structure Position where
  offset : Nat
  before : List Nat
  after : List Nat

/-- A position so many code points back. -/
def Position.back : Nat → Position → Option Position
  | 0, p => some p
  | n + 1, p =>
    match p.before with
    | c :: more => Position.back n ⟨p.offset - 1, more, c :: p.after⟩
    | [] => none

/-! ## Memory -/

/-- What a match keeps. -/
structure Memory where
  /-- The offsets at which groups started and ended. -/
  marks : Array (Option Nat)
  /-- How many of the marks count. -/
  valid : Nat
  /-- The place that was looked at last. -/
  reached : Position

/-- Leaves a mark.  Marks that were skipped are cleared. -/
def Memory.mark (m : Memory) (place offset : Nat) : Memory :=
  let cleared :=
    (List.range (place - m.valid)).foldl (fun marks i => marks.setIfInBounds (m.valid + i) none)
      m.marks
  { m with
    marks := cleared.setIfInBounds place (some offset)
    valid := Nat.max m.valid (place + 1) }

/-- Takes back the number of valid marks, and if `deep` the marks too. -/
def Memory.undo (m earlier : Memory) (deep : Bool) : Memory :=
  { m with valid := earlier.valid, marks := if deep then earlier.marks else m.marks }

/-- Looks at a place. -/
def Memory.lookAt (m : Memory) (p : Position) : Memory := { m with reached := p }

/-- Where a group started and ended, if it has. -/
def Memory.group? (m : Memory) (index : Nat) : Option (Nat × Nat) := do
  let place := 2 * (index - 1)
  if m.valid ≤ place + 1 then none
  else
    let start ← (m.marks[place]?).join
    let stop ← (m.marks[place + 1]?).join
    if stop < start then none else some (start, stop)

/-! ## Matches -/

/-- Whether a match succeeded, and what it left. -/
abbrev Outcome := Bool × Memory

/-- The rest of a match. -/
abbrev Rest := Position → Memory → Outcome

/-- One part of a match, before the rest. -/
abbrev Part := Position → Memory → Rest → Outcome

/-- A part on its own, without a rest that could make it try another way. -/
def alone (part : Part) (p : Position) (m : Memory) : Outcome :=
  part p m fun q left => (true, left.lookAt q)

/-- Whether there is a word on exactly one side of a position. -/
def atWordEnd (o : Options) (p : Position) : Bool :=
  let left := (p.before.head?.map (o.inClass .word)).getD false
  let right := (p.after.head?.map (o.inClass .word)).getD false
  left != right

/-- Whether a position is where an anchor asks for. -/
def atAnchor (o : Options) (p : Position) : Anchor → Bool
  | .textStart => p.before.isEmpty
  | .textEnd => p.after.isEmpty
  | .lineStart => p.before.isEmpty || (o.has .multiline && p.before.head? == some 10)
  | .lineEnd =>
    p.after.isEmpty || p.after == [10] || (o.has .multiline && p.after.head? == some 10)
  | .boundary => !(p.before.isEmpty && p.after.isEmpty) && atWordEnd o p
  | .notBoundary => !(p.before.isEmpty && p.after.isEmpty) && !atWordEnd o p

/-- Goes over one code point that is accepted. -/
def oneCode (accepts : Nat → Bool) : Part := fun p m rest =>
  match p.after with
  | c :: more => if accepts c then rest ⟨p.offset + 1, c :: p.before, more⟩ m else (false, m)
  | [] => (false, m)

/-- Goes over the given code points. -/
def theseCodes (same : Nat → Nat → Bool) : List Nat → Part
  | [] => fun p m rest => rest p m
  | d :: ds => fun p m rest =>
    match p.after with
    | c :: more =>
      if same c d then theseCodes same ds ⟨p.offset + 1, c :: p.before, more⟩ m rest
      else (false, m)
    | [] => (false, m)

/-! ## Repetitions of one character -/

/-- The positions that accepted code points lead to, at most so many, the farthest first; `found`
are those on the way. -/
def stretch (accepts : Nat → Bool) :
    Option Nat → Nat → List Nat → List Nat → List Position → List Position
  | _, offset, before, [], found => ⟨offset, before, []⟩ :: found
  | max, offset, before, c :: more, found =>
    let here : Position := ⟨offset, before, c :: more⟩
    if accepts c && max != some 0 then
      stretch accepts (max.map (· - 1)) (offset + 1) (c :: before) more (here :: found)
    else here :: found

/-- Tries the rest at each of several positions in turn.  If the rest starts with a given code
point, other positions are passed over. -/
def tryEach (next : Option Nat) (deep : Bool) (earlier : Memory) (rest : Rest) :
    List Position → Memory → Outcome
  | [], m => (false, m)
  | q :: more, m =>
    if (next.map fun c => q.after.head? == some c).getD true then
      match rest q (m.lookAt q) with
      | (true, left) => (true, left)
      | (false, left) => tryEach next deep earlier rest more (left.undo earlier deep)
    else tryEach next deep earlier rest more m

/-- Tries the rest at each of several positions in turn, and looks at the last one again.  Marks
are taken back where one more code point would be accepted. -/
def tryEachNear (accepts : Nat → Bool) (deep : Bool) (earlier : Memory) (rest : Rest) :
    List Position → Memory → Outcome
  | [], m => (false, m)
  | q :: more, m =>
    match rest q (m.lookAt q) with
    | (true, left) => (true, left)
    | (false, left) =>
      let left := left.lookAt q
      let left :=
        if (q.after.head?.map accepts).getD false then left.undo earlier deep else left
      tryEachNear accepts deep earlier rest more left

/-- Repeats one character. -/
def oneRepeatedly (mode : Mode) (min : Nat) (max : Option Nat) (accepts : Nat → Bool)
    (next : Option Nat) (deep : Bool) : Part := fun p m rest =>
  if p.after.length < min then (false, m)
  else
    let found := stretch accepts max p.offset p.before p.after []
    let m := m.lookAt p
    if found.length ≤ min then (false, m)
    else
      match mode with
      | .greedy => tryEach next deep m rest (found.take (found.length - min)) m
      | .lazy => tryEachNear accepts deep m rest (found.reverse.drop min) m
      | .possessive =>
        match found with
        | q :: _ => rest q (m.lookAt q)
        | [] => (false, m)

/-! ## Other repetitions -/

/-- Whether a repetition may turn once more. -/
def mayTurn (max : Option Nat) (count : Nat) : Bool :=
  match max with
  | none => true
  | some n => count < n

/-- Repeats a part as often as it goes.  `last` is where the last turn started that was not asked
for. -/
def greedily (part : Part) (min : Nat) (max : Option Nat) :
    Nat → Nat → Option Nat → Part
  | 0, _, _, p, m, rest => rest p m
  | turns + 1, count, last, p, m, rest =>
    let m := m.lookAt p
    if count < min then
      match part p m fun q left => greedily part min max turns (count + 1) last q left rest with
      | (true, left) => (true, left)
      | (false, left) => (false, left.lookAt p)
    else
      let more :=
        if mayTurn max count && last != some p.offset then
          part p m fun q left =>
            greedily part min max turns (count + 1) (some p.offset) q left rest
        else (false, m)
      match more with
      | (true, left) => (true, left)
      | (false, left) =>
        match rest p ((left.undo m true).lookAt p) with
        | (true, left) => (true, left)
        | (false, left) => (false, left.lookAt p)

/-- Repeats a part as seldom as it goes. -/
def lazily (part : Part) (min : Nat) (max : Option Nat) (deep : Bool) :
    Nat → Nat → Option Nat → Part
  | 0, _, _, p, m, rest => rest p m
  | turns + 1, count, last, p, m, rest =>
    let m := m.lookAt p
    if count < min then
      match part p m fun q left => lazily part min max deep turns (count + 1) last q left rest with
      | (true, left) => (true, left)
      | (false, left) => (false, left.lookAt p)
    else
      match rest p m with
      | (true, left) => (true, left)
      | (false, left) =>
        let m := (left.undo m deep).lookAt p
        if mayTurn max count && last != some p.offset then
          match
            part p m fun q left =>
              lazily part min max deep turns (count + 1) (some p.offset) q left rest
          with
          | (true, left) => (true, left)
          | (false, left) => (false, left.lookAt p)
        else (false, m)

/-- Repeats a part as often as it goes, and never fewer times.  The rest goes on from the place
that was looked at last, also if that was in a turn that failed. -/
def possessively (part : Part) (min : Nat) (max : Option Nat) (start : Position) :
    Nat → Nat → Option Nat → Memory → Rest → Outcome
  | 0, _, _, m, rest => rest m.reached m
  | turns + 1, count, last, m, rest =>
    let here := m.reached
    if count < min then
      match alone part here m with
      | (true, left) => possessively part min max start turns (count + 1) last left rest
      | (false, left) => (false, left.lookAt start)
    else if mayTurn max count && last != some here.offset then
      match alone part here m with
      | (true, left) =>
        possessively part min max start turns (count + 1) (some here.offset) left rest
      | (false, left) => rest left.reached (left.undo m true)
    else rest here m

/-- Repeats a part in the given way in a text of the given length. -/
def repeatedly (size : Nat) (mode : Mode) (min : Nat) (max : Option Nat) (deep : Bool)
    (part : Part) : Part := fun p m rest =>
  let turns := min + 2 * size + 2
  match mode with
  | .greedy => greedily part min max turns 0 none p m rest
  | .lazy => lazily part min max deep turns 0 none p m rest
  | .possessive => possessively part min max p turns 0 none (m.lookAt p) rest

/-! ## Steps -/

/-- What the first of several steps asks of one code point, if it looks at it as it stands. -/
def firstPlain? : List Step → Option (Nat → Bool)
  | .one s :: _ => if s.plain then some s.accepts else none
  | _ => none

/-- The code point that the first of several steps is about. -/
def firstLiteral? : List Step → Option Nat
  | .one s :: _ => s.literal
  | _ => none

/-- Whether steps can match at a position, as far as their first one tells. -/
def mayStart (steps : List Step) (p : Position) : Bool :=
  match firstPlain? steps with
  | some accepts => (p.after.head?.map accepts).getD false
  | none => true

mutual

/-- The ways in which a step matches in a text.  `next` is the code point that has to follow, and
`deep` says that a repetition stands around the step. -/
def run (text : Array Nat) (next : Option Nat) (deep : Bool) : Step → Part
  | .one s => oneCode s.accepts
  | .mark place => fun p m rest => rest p (m.mark place p.offset)
  | .anchor o a => fun p m rest => if atAnchor o p a then rest p m else (false, m)
  | .branch ways => fun p m rest => runAny text deep m ways p m rest
  | .oneRepeated mode min max s => oneRepeatedly mode min max s.accepts next deep
  | .repeated mode min max body =>
    repeatedly text.size mode min max deep
      (runAll text (if mode = .possessive then deep else true) body)
  | .atomic body => fun p m rest =>
    match alone (runAll text deep body) p (m.lookAt p) with
    | (true, left) => rest left.reached left
    | (false, left) => (false, left.lookAt p)
  | .look negated back body => fun p m rest =>
    match p.back back with
    | none => if negated then rest p m else (false, m)
    | some q =>
      match alone (runAll text deep body) q (m.lookAt q), negated with
      | (true, left), false => rest p left
      | (false, left), true => rest p (left.undo m deep)
      | (_, left), _ => (false, left)
  | .backref index same => fun p m rest =>
    match m.group? index with
    | some (start, stop) => theseCodes same (text.extract start stop).toList p m rest
    | none => (false, m)
  | .ifGroup index yes no => fun p m rest =>
    match m.group? index with
    | some _ => runAll text deep yes p m rest
    | none => runAll text deep no p m rest

/-- The ways in which all steps match one after the other. -/
def runAll (text : Array Nat) (deep : Bool) : List Step → Part
  | [] => fun p m rest => rest p m
  | step :: more => fun p m rest =>
    run text (firstLiteral? more) deep step p m fun q left => runAll text deep more q left rest

/-- The ways in which one of the alternatives matches. -/
def runAny (text : Array Nat) (deep : Bool) (earlier : Memory) : List (List Step) → Part
  | [] => fun _ m _ => (false, m)
  | way :: more => fun p m rest =>
    if mayStart way p then
      match runAll text deep way p (m.lookAt p) rest with
      | (true, left) => (true, left)
      | (false, left) => runAny text deep earlier more p (left.undo earlier deep) rest
    else runAny text deep earlier more p m rest

end

/-- Whether a group is marked to start behind its end. -/
def Memory.hasWrongSpan (m : Memory) (groupCount : Nat) : Bool :=
  (List.range groupCount).any fun i =>
    2 * i + 1 < m.valid &&
      match (m.marks[2 * i]?).join, (m.marks[2 * i + 1]?).join with
      | some start, some stop => stop < start
      | _, _ => false

/-- Whether a pattern matches a whole text.  A match that leaves a group with a wrong span is an
error. -/
def Program.matches (program : Program) (text : List Char) : Except Error Bool :=
  let codes := text.map Char.toNat
  let start : Position := ⟨0, [], codes⟩
  let memory : Memory := ⟨Array.replicate (2 * program.groupCount) none, 0, start⟩
  if codes.length < program.minWidth then .ok false
  else
    match runAll codes.toArray false program.steps start memory fun p m => (p.after.isEmpty, m) with
    | (true, left) =>
      if left.hasWrongSpan program.groupCount then .error ⟨.wrongSpan, none⟩ else .ok true
    | (false, _) => .ok false

end Pattern
end RecordRules
