import RecordRules.Failure

/-!
# Headers

The characters of a header are those of a small set: ASCII in a request, Latin-1 in a response.
`CharacterSet.obstacle?` is what is wrong with a text that has others.
-/

set_option autoImplicit false

namespace RecordRules

/-- A set of characters, all of them below a code point. -/
inductive CharacterSet where
  | ascii
  | latin1
deriving DecidableEq, Repr

namespace CharacterSet

/-- The name of a set. -/
def label : CharacterSet → String
  | .ascii => "ascii"
  | .latin1 => "latin-1"

/-- The first code point beyond a set. -/
def bound : CharacterSet → Nat
  | .ascii => 0x80
  | .latin1 => 0x100

/-- Whether a character is in a set. -/
def contains (set : CharacterSet) (c : Char) : Bool := c.toNat < set.bound

/-- The wording for characters beyond a set, and where they stand. -/
def wording (set : CharacterSet) (what place : String) : String :=
  s!"'{set.label}' codec can't encode {what} in position {place}: " ++
    s!"ordinal not in range({set.bound})"

/-- What is wrong with a text: the first characters that are beyond the set, up to the next one that
is in it. -/
def obstacle? (set : CharacterSet) (text : String) : Option Failure :=
  let start := (text.toList.takeWhile set.contains).length
  let report (what place : String) : Failure := .ofMishap .encoding (set.wording what place)
  match (text.toList.drop start).takeWhile fun c => !set.contains c with
  | [] => none
  | [c] =>
    some (report ("character '" ++ String.ofList (Text.escapeCode c) ++ "'") (toString start))
  | several => some (report "characters" s!"{start}-{start + several.length - 1}")

end CharacterSet
end RecordRules
