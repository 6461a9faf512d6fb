import RecordRules.Pattern.Parser
import RecordRules.Text.Blank
import RecordRules.Text.Case

/-!
# Patterns as programs

`Step` is a step of a match.  `parse` reads a text as a pattern and turns it into steps: the flags
are worked into what each step accepts, groups become marks at their ends, and the repetition of
one character is told apart from other repetitions.

Case counts for nothing under `Flag.ignoreCase`.  `Options.single?` says what one character has to
be then:

* A character is compared by its lower case and the forms that count as one with it.
* A set is asked for the lower case of a character, unless no member of the set changes with its
  case.  A member beyond the first 65536 code points is not brought to lower case itself.
-/

set_option autoImplicit false

namespace RecordRules
namespace Pattern

/-- What is switched on where a part of a pattern stands. -/
structure Options where
  flags : List Flag
deriving Inhabited

namespace Options

/-- Whether a flag is on. -/
def has (o : Options) (flag : Flag) : Bool := o.flags.contains flag

/-- The options within a group that switches flags on and off. -/
def within (o : Options) (on off : List Flag) : Options :=
  let kept := if on.any Flag.isType then o.flags.filter fun f => !f.isType else o.flags
  ⟨(kept ++ on).filter fun f => !off.contains f⟩

/-- Whether a code point belongs to a class. -/
def inClass (o : Options) (k : Class) (n : Nat) : Bool :=
  let c := Char.ofNat n
  if o.has .ascii then
    match k with
    | .digit => c.isDigit
    | .space => c == ' ' || (9 ≤ n && n ≤ 13)
    | .word => c == '_' || c.isAlphanum
  else
    match k with
    | .digit => Text.isDigit c
    | .space => Text.isBlank c
    | .word => Text.isWordChar c

/-! ## Case -/

/-- The lower case of a code point. -/
def lower (o : Options) (n : Nat) : Nat :=
  if n.isValidChar then
    (if o.has .ascii then (Char.ofNat n).toLower else Text.toLower (Char.ofNat n)).toNat
  else n

/-- The code points in lower case that count as one with the given one. -/
def forms (o : Options) (n : Nat) : List Nat :=
  if o.has .ascii || !n.isValidChar then [n]
  else (Text.lowerForms (Char.ofNat n)).map Char.toNat

/-- The code points with the given lower case. -/
def sources (o : Options) (n : Nat) : List Nat :=
  if !n.isValidChar then [n]
  else if o.has .ascii then [n, (Char.ofNat n).toUpper.toNat]
  else (Text.withLower (Char.ofNat n)).map Char.toNat

/-- Whether a code point changes with its case. -/
def changes (o : Options) (n : Nat) : Bool :=
  n.isValidChar &&
    if o.has .ascii then (Char.ofNat n).isAlpha else Text.changesCase (Char.ofNat n)

/-- Whether a code point between two others changes with its case. -/
def changesBetween (o : Options) (low high : Nat) : Bool :=
  if o.has .ascii then (low ≤ 0x5A && 0x41 ≤ high) || (low ≤ 0x7A && 0x61 ≤ high)
  else Text.changesCaseBetween low high

/-- Whether two code points are the same in lower case, if case counts for nothing. -/
def same (o : Options) (m n : Nat) : Bool :=
  if o.has .ignoreCase then o.lower m == o.lower n else m == n

/-! ## Sets -/

/-- Sets treat code points from here on apart. -/
def planeLimit : Nat := 0x10000

/-- Whether a member of a set changes with its case, or is treated as if it did. -/
def itemChanges (o : Options) : SetItem → Bool
  | .code n => planeLimit ≤ n || o.changes n
  | .range low high => planeLimit ≤ high || o.changesBetween low high
  | .ofClass _ _ => false

/-- Whether a code point is among those that a member of a set stands for. -/
def hasItem (o : Options) (n : Nat) : SetItem → Bool
  | .code m => n == m
  | .range low high => low ≤ n && n ≤ high
  | .ofClass complement k => o.inClass k n != complement

/-- Whether a code point in lower case is among those that a member of a set stands for. -/
def hasLowered (o : Options) (n : Nat) : SetItem → Bool
  | .code m => if planeLimit ≤ m then n == m else (o.forms (o.lower m)).contains n
  | .range low high =>
    let within (i : Nat) : Bool := low ≤ i && i ≤ high
    ((o.forms n).any fun m => (o.sources m).any fun i => within i && i < planeLimit) ||
      (planeLimit ≤ high &&
        (within n || within (((Text.upperChars (Char.ofNat n)).head?.map Char.toNat).getD n)))
  | .ofClass complement k => o.inClass k n != complement

end Options

/-! ## Steps -/

/-- What one character of a text has to be. -/
structure Single where
  accepts : Nat → Bool
  /-- Whether the character is looked at as it stands in the text. -/
  plain : Bool
  /-- The code point, if it is a single one. -/
  literal : Option Nat

/-- What one character has to be for a part of a pattern, if that is about one character. -/
def Options.single? (o : Options) : Node → Option Single
  | .code n =>
    if o.has .ignoreCase && o.changes n then
      let forms := o.forms (o.lower n)
      some ⟨fun m => forms.contains (o.lower m), false, none⟩
    else some ⟨fun m => m == n, true, some n⟩
  | .otherThan n =>
    if o.has .ignoreCase && o.changes n then
      let forms := o.forms (o.lower n)
      some ⟨fun m => !forms.contains (o.lower m), false, none⟩
    else some ⟨fun m => m != n, false, none⟩
  | .any => some ⟨fun m => o.has .dotAll || m != 10, false, none⟩
  | .set negated items =>
    if o.has .ignoreCase && items.any o.itemChanges then
      some ⟨fun m => items.any (o.hasLowered (o.lower m)) != negated, false, none⟩
    else some ⟨fun m => items.any (o.hasItem m) != negated, true, none⟩
  | _ => none

mutual

/-- What one character has to be for a part that is about one character, also within groups that
are not captured. -/
def singleOf? (o : Options) : Node → Option Single
  | .group none on off body => singleOfOne? (o.within on off) body
  | node => o.single? node

/-- The same for a pattern of one part. -/
def singleOfOne? (o : Options) : List Node → Option Single
  | [node] => singleOf? o node
  | _ => none

end

/-- A step of a match. -/
inductive Step where
  | one (s : Single)
  /-- A group starts or ends: marks come in pairs. -/
  | mark (place : Nat)
  | anchor (o : Options) (a : Anchor)
  | branch (ways : List (List Step))
  | oneRepeated (mode : Mode) (min : Nat) (max : Option Nat) (s : Single)
  | repeated (mode : Mode) (min : Nat) (max : Option Nat) (body : List Step)
  | atomic (body : List Step)
  /-- What stands `back` characters before is looked at. -/
  | look (negated : Bool) (back : Nat) (body : List Step)
  | backref (index : Nat) (same : Nat → Nat → Bool)
  | ifGroup (index : Nat) (yes no : List Step)

/-- The marks at the ends of a group around its steps. -/
def marked (index : Option Nat) (body : List Step) : List Step :=
  match index with
  | none => body
  | some i => .mark (2 * (i - 1)) :: body ++ [.mark (2 * (i - 1) + 1)]

mutual

/-- The steps of a part of a pattern. -/
def stepsOf (groups : Nat → Width) (o : Options) : Node → Except Cause (List Step)
  | .anchor a => return [.anchor o a]
  | .group index on off body => return marked index (← stepsOfAll groups (o.within on off) body)
  | .atomic body => return [.atomic (← stepsOfAll groups o body)]
  | .repeated mode min max body => do
    if o.has .template then throw (.repeatedTemplate mode)
    match singleOfOne? o body with
    | some s => return [.oneRepeated mode min max s]
    | none => return [.repeated mode min max (← stepsOfAll groups o body)]
  | .branch ways => return [.branch (← stepsOfEach groups o ways)]
  | .look ahead negated body => do
    let width := widthOfAll groups body
    if !ahead && width.min != width.max then throw .lookbehindWidth
    return [.look negated (if ahead then 0 else width.min) (← stepsOfAll groups o body)]
  | .backref index => return [.backref index o.same]
  | .ifGroup index yes no => do
    let yes ← stepsOfAll groups o yes
    return [.ifGroup index yes (← stepsOfAll groups o no)]
  | node => return ((o.single? node).map Step.one).toList

/-- The steps of a pattern. -/
def stepsOfAll (groups : Nat → Width) (o : Options) : List Node → Except Cause (List Step)
  | [] => return []
  | node :: rest => do
    let steps ← stepsOf groups o node
    return steps ++ (← stepsOfAll groups o rest)

/-- The steps of each of several patterns. -/
def stepsOfEach (groups : Nat → Width) (o : Options) :
    List (List Node) → Except Cause (List (List Step))
  | [] => return []
  | nodes :: rest => do
    let steps ← stepsOfAll groups o nodes
    return steps :: (← stepsOfEach groups o rest)

end

/-- A pattern ready to be matched: its steps, the number of its groups, and the least number of
characters that it matches. -/
structure Program where
  steps : List Step
  groupCount : Nat
  minWidth : Nat

/-- The steps of a pattern that was read. -/
def Reading.program (r : Reading) : Except Error Program := do
  match stepsOfAll r.groupWidth ⟨r.flags⟩ r.nodes with
  | .ok steps => return ⟨steps, r.widths.length, (widthOfAll r.groupWidth r.nodes).min⟩
  | .error cause => throw ⟨cause, none⟩

/-- Reads a text as a pattern. -/
def parse (pattern : List Char) : Except Error Program := do (← read pattern).program

end Pattern
end RecordRules
