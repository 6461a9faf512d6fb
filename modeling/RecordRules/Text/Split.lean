/-!
# Cutting text at a separator

* `cut?` cuts at the first place where the separator stands, `cutLast?` at the last one.
* `pieces` cuts at every place, from left to right and without overlap.

All of them work on lists of characters.  `append_of_cut?` says that a cut loses nothing but the
separator, and `cut?_eq_none_iff` that it fails exactly on text without the separator.
-/

set_option autoImplicit false

namespace RecordRules
namespace Text

/-- The text before and after the first place where `sep` stands. -/
def cut? (sep : List Char) : List Char → Option (List Char × List Char)
  | [] => if sep.isEmpty then some ([], []) else none
  | c :: cs =>
    if sep.isPrefixOf (c :: cs) then some ([], (c :: cs).drop sep.length)
    else (cut? sep cs).map fun (before, after) => (c :: before, after)

/-- The text before and after the last place where `sep` stands. -/
def cutLast? (sep cs : List Char) : Option (List Char × List Char) :=
  (cut? sep.reverse cs.reverse).map fun (after, before) => (before.reverse, after.reverse)

/-- Whether `sep` stands somewhere in the text. -/
def occurs (sep cs : List Char) : Bool := (cut? sep cs).isSome

/-- Puts a character in front of the first piece. -/
def extendFirst (c : Char) : List (List Char) → List (List Char)
  | [] => [[c]]
  | piece :: rest => (c :: piece) :: rest

/-- The pieces of a text between the separators, `skip` characters of which still belong to the
separator just found. -/
def piecesFrom (sep : List Char) : Nat → List Char → List (List Char)
  | _, [] => [[]]
  | skip + 1, _ :: cs => piecesFrom sep skip cs
  | 0, c :: cs =>
    if sep.isPrefixOf (c :: cs) then [] :: piecesFrom sep (sep.length - 1) cs
    else extendFirst c (piecesFrom sep 0 cs)

/-- The pieces of a text between the separators, found from left to right. -/
def pieces (sep cs : List Char) : List (List Char) := piecesFrom sep 0 cs

/-- A cut loses nothing but the separator. -/
theorem append_of_cut? {sep : List Char} : ∀ {cs before after : List Char},
    cut? sep cs = some (before, after) → cs = before ++ sep ++ after
  | [], before, after, h => by
    cases sep with
    | nil => simp [cut?] at h; simp [h.1, h.2]
    | cons _ _ => simp [cut?] at h
  | c :: cs, before, after, h => by
    unfold cut? at h
    split at h
    · rename_i hp
      simp only [Option.some.injEq, Prod.mk.injEq] at h
      obtain ⟨rest, hr⟩ := List.isPrefixOf_iff_prefix.1 hp
      rw [← h.1, ← h.2, ← hr]; simp
    · obtain ⟨⟨b, a⟩, hc, he⟩ := Option.map_eq_some_iff.1 h
      simp only [Prod.mk.injEq] at he
      rw [append_of_cut? hc, ← he.1, ← he.2]; simp

/-- A cut fails exactly on text in which the separator nowhere stands. -/
theorem cut?_eq_none_iff {sep : List Char} : ∀ {cs : List Char},
    cut? sep cs = none ↔ ¬ sep <:+: cs
  | [] => by
    cases sep with
    | nil => simp [cut?]
    | cons _ _ => simp [cut?]
  | c :: cs => by
    unfold cut?
    rw [List.infix_cons_iff]
    split
    · rename_i hp; simp [List.isPrefixOf_iff_prefix.1 hp]
    · rename_i hp
      simp only [Option.map_eq_none_iff, cut?_eq_none_iff]
      have : ¬ sep <+: c :: cs := fun h => hp (List.isPrefixOf_iff_prefix.2 h)
      simp [this]

end Text
end RecordRules
