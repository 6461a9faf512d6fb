/-!
# Named fields

A map from names to values that keeps the order in which names were first set.  Its view is
`Fields.get?`: `get?_set_self` and `get?_set_other` say what setting a name does to it.
-/

set_option autoImplicit false

namespace RecordRules

/-- Values under names, in the order in which the names were first set. -/
abbrev Fields (α : Type) := List (String × α)

namespace Fields

variable {α β : Type}

/-- The value under a name. -/
def get? : Fields α → String → Option α
  | [], _ => none
  | (name, value) :: rest, key => if name = key then some value else get? rest key

/-- Whether there is a value under a name. -/
def has (fields : Fields α) (key : String) : Bool := (get? fields key).isSome

/-- Sets the value under a name, at the end when the name is new. -/
def set : Fields α → String → α → Fields α
  | [], key, value => [(key, value)]
  | (name, old) :: rest, key, value =>
    if name = key then (name, value) :: rest else (name, old) :: set rest key value

/-- Sets every value of `more`, in its order. -/
def setAll (fields more : Fields α) : Fields α := more.foldl (fun fs (k, v) => set fs k v) fields

/-- Removes a name. -/
def erase (fields : Fields α) (key : String) : Fields α :=
  fields.filter fun (name, _) => name != key

/-- The names, in order. -/
def names (fields : Fields α) : List String := fields.map Prod.fst

/-- The fields ordered by name. -/
def sorted (fields : Fields α) : Fields α := fields.mergeSort fun a b => decide (a.1 ≤ b.1)

@[simp] theorem get?_nil (key : String) : get? ([] : Fields α) key = none := rfl

theorem get?_set_self (fields : Fields α) (key : String) (value : α) :
    get? (set fields key value) key = some value := by
  induction fields with
  | nil => simp [set, get?]
  | cons f rest ih => by_cases h : f.1 = key <;> simp [set, get?, h, ih]

theorem get?_set_other (fields : Fields α) {key other : String} (value : α) (h : other ≠ key) :
    get? (set fields key value) other = get? fields other := by
  induction fields with
  | nil => simp [set, get?, h.symm]
  | cons f rest ih =>
    by_cases hk : f.1 = key
    · simp [set, get?, hk, h.symm]
    · by_cases ho : f.1 = other <;> simp [set, get?, hk, ho, h, ih]

theorem get?_set (fields : Fields α) (key other : String) (value : α) :
    get? (set fields key value) other = if other = key then some value else get? fields other := by
  split
  · next h => subst h; exact get?_set_self fields other value
  · next h => exact get?_set_other fields value h

end Fields
end RecordRules
