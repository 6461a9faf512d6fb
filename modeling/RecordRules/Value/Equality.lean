import RecordRules.Value.Basic

/-!
# Equality of values

`Value.same` compares values by structure and exactly: an integer equals a double only if the
double has precisely that value, a truth value counts as zero or one, maps are compared without
regard to order, and a tuple equals only a tuple.

What is no number equals nothing.  As an item of a list or map, though, it is the same as itself,
that is as one with its mark: `Value.sameItem` is that relation, and `Value.same` differs from it
only there.

The `==` of expressions is coarser on numbers; see `Value.equal`.
-/

set_option autoImplicit false

namespace RecordRules
namespace Value

/-- A truth value as a number. -/
def boolInt (b : Bool) : Int := if b then 1 else 0

/-- Equality of two items that hold no others. -/
def sameScalar : Value → Value → Bool
  | .null, .null => true
  | .bool a, .bool b => a == b
  | .bool a, .int n => boolInt a == n
  | .int n, .bool b => n == boolInt b
  | .bool a, .float x => Double.equalsInt x (boolInt a)
  | .float x, .bool b => Double.equalsInt x (boolInt b)
  | .int m, .int n => m == n
  | .int n, .float x => Double.equalsInt x n
  | .float x, .int n => Double.equalsInt x n
  | .float x, .float y => x == y
  | .text s, .text t => s == t
  | .date s, .date t => s == t
  | .moment s, .moment t => s.same t
  | .nan i, .nan j => i == j
  | _, _ => false

mutual

/-- Equality of two items of a list or map. -/
def sameItem : Value → Value → Bool
  | .list xs, .list ys => sameItems xs ys
  | .tuple xs, .tuple ys => sameItems xs ys
  | .map xs, .map ys => xs.length == ys.length && sameEntries xs ys
  | .list _, _ => false
  | .tuple _, _ => false
  | .map _, _ => false
  | x, y => sameScalar x y

/-- Equality of two sequences, item by item. -/
def sameItems : List Value → List Value → Bool
  | [], [] => true
  | x :: xs, y :: ys => sameItem x y && sameItems xs ys
  | _, _ => false

/-- Whether every entry of the first map stands in the second. -/
def sameEntries : List (String × Value) → List (String × Value) → Bool
  | [], _ => true
  | (name, x) :: xs, ys =>
    (match Fields.get? ys name with
      | some y => sameItem x y
      | none => false) && sameEntries xs ys

end

/-- Equality by structure, exact on numbers and blind to the order of map entries. -/
def same (x y : Value) : Bool :=
  match x with
  | .nan _ => false
  | _ => sameItem x y

end Value
end RecordRules
