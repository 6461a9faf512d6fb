/-!
# Blanks, and text without them at its ends

* `isSpace` is the Unicode white space, which may stand around a number.
* `isBlank` is the class of characters that count as space around a text: the white space together
  with the four information separators.
* `trim` drops the blanks at both ends.  `trim_nil_iff` says when nothing is left.
-/

set_option autoImplicit false

namespace RecordRules
namespace Text

/-- The Unicode white space. -/
def isSpace (c : Char) : Bool :=
  let n := c.toNat
  (0x09 ≤ n && n ≤ 0x0D) || n == 0x20 || n == 0x85 || n == 0xA0 || n == 0x1680 ||
    (0x2000 ≤ n && n ≤ 0x200A) || n == 0x2028 || n == 0x2029 || n == 0x202F || n == 0x205F ||
    n == 0x3000

/-- A character that counts as space: the Unicode white space, and the separators `U+001C` to
`U+001F`. -/
def isBlank (c : Char) : Bool := isSpace c || (0x1C ≤ c.toNat && c.toNat ≤ 0x1F)

/-- The characters without the white space at both ends. -/
def withoutSpace (cs : List Char) : List Char :=
  ((cs.dropWhile isSpace).reverse.dropWhile isSpace).reverse

/-- The characters without the blanks in front. -/
def trimLeft (cs : List Char) : List Char := cs.dropWhile isBlank

/-- The characters without the blanks at the end. -/
def trimRight (cs : List Char) : List Char := (cs.reverse.dropWhile isBlank).reverse

/-- The characters without the blanks at both ends. -/
def trim (cs : List Char) : List Char := trimRight (trimLeft cs)

/-- A text without the blanks at both ends. -/
def trimmed (s : String) : String := String.ofList (trim s.toList)

/-- Whether a text has no character other than blanks. -/
def allBlank (s : String) : Bool := s.toList.all isBlank

theorem dropWhile_eq_nil_iff {p : Char → Bool} {cs : List Char} :
    cs.dropWhile p = [] ↔ cs.all p = true := by
  induction cs with
  | nil => simp
  | cons c cs ih => by_cases h : p c <;> simp [h, ih]

/-- Nothing is left of a text exactly when all of it is blank. -/
theorem trim_nil_iff {cs : List Char} : trim cs = [] ↔ cs.all isBlank = true := by
  unfold trim trimRight trimLeft
  rw [List.reverse_eq_nil_iff, dropWhile_eq_nil_iff, List.all_reverse]
  constructor
  · intro h
    cases hd : cs.dropWhile isBlank with
    | nil => exact dropWhile_eq_nil_iff.1 hd
    | cons c rest =>
      have hc : isBlank c = true := by
        rw [hd] at h; simp at h; exact h.1
      have hn : isBlank c = false := by
        have := List.head?_dropWhile_not isBlank cs
        rw [hd] at this; simpa using this
      rw [hc] at hn; exact absurd hn (by simp)
  · intro h
    rw [dropWhile_eq_nil_iff.2 h]; rfl

end Text
end RecordRules
