import RecordRules.Value.Basic

/-!
# Caches of measures

A cache keeps values of measures for one unit of work, under their keys, and counts how often it was
asked and had an answer.
-/

set_option autoImplicit false

namespace RecordRules

/-- Values under keys, and how often they were asked for. -/
structure Cache where
  entries : Fields Value := []
  hits : Nat := 0
  misses : Nat := 0
  /-- Whether the unit of work is over. -/
  cleared : Bool := false
deriving Inhabited

namespace Cache

/-- The value under a key, which counts as a hit or a miss. -/
def lookup (c : Cache) (key : String) : Option Value × Cache :=
  match c.entries.get? key with
  | some v => (some v, { c with hits := c.hits + 1 })
  | none => (none, { c with misses := c.misses + 1 })

/-- Keeps a value under a key. -/
def store (c : Cache) (key : String) (value : Value) : Cache :=
  { c with entries := c.entries.set key value }

/-- Forgets all values; the counts stay. -/
def clear (c : Cache) : Cache := { c with entries := [], cleared := true }

/-- How many values there are. -/
def size (c : Cache) : Nat := c.entries.length

/-- Whether there is a value under a key. -/
def contains (c : Cache) (key : String) : Bool := c.entries.has key

/-- The keys, in order. -/
def keys (c : Cache) : List String := c.entries.names.mergeSort fun a b => decide (a ≤ b)

end Cache
end RecordRules
