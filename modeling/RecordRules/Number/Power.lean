/-!
# Powers

The powers of the two bases in which numbers are held and written.
-/

set_option autoImplicit false

namespace RecordRules

/-- A power of two. -/
def twoTo (n : Nat) : Nat := Nat.pow 2 n

/-- A power of ten. -/
def tenTo (n : Nat) : Nat := Nat.pow 10 n

end RecordRules
