import RecordRules.Text.Blank
import RecordRules.Text.Split

/-!
# Parts of a text occur in it

Whatever is cut out of a text, or left of it without the blanks at its ends, stands in the text in
one stretch: `trim_isInfix`, `cut?_isInfix`, `cutLast?_isInfix` and `isInfix_of_mem_pieces`.

The separator itself stands in none of the pieces, however it overlaps with itself:
`not_isInfix_of_mem_pieces`.
-/

set_option autoImplicit false

namespace RecordRules
namespace Text

variable {sep cs before after piece : List Char}

theorem trimLeft_isInfix (cs : List Char) : trimLeft cs <:+: cs :=
  (List.dropWhile_suffix isBlank).isInfix

theorem trimRight_isInfix (cs : List Char) : trimRight cs <:+: cs := by
  rw [trimRight, ← List.reverse_infix, List.reverse_reverse]
  exact (List.dropWhile_suffix isBlank).isInfix

theorem trim_isInfix (cs : List Char) : trim cs <:+: cs :=
  (trimRight_isInfix _).trans (trimLeft_isInfix cs)

/-- Both sides of a cut stand in the text. -/
theorem cut?_isInfix (h : cut? sep cs = some (before, after)) :
    before <:+: cs ∧ after <:+: cs := by
  obtain rfl := append_of_cut? h
  exact ⟨⟨[], sep ++ after, by simp⟩, ⟨before ++ sep, [], by simp⟩⟩

theorem cutLast?_isInfix (h : cutLast? sep cs = some (before, after)) :
    before <:+: cs ∧ after <:+: cs := by
  obtain ⟨⟨last, first⟩, hcut, hsides⟩ := Option.map_eq_some_iff.1 h
  obtain ⟨rfl, rfl⟩ := Prod.mk.inj hsides
  obtain ⟨hlast, hfirst⟩ := cut?_isInfix hcut
  rw [← List.reverse_infix, List.reverse_reverse] at hlast hfirst
  exact ⟨hfirst, hlast⟩

/-- What does not occur in a text does not occur in a part of it. -/
theorem cut?_eq_none_of_isInfix (h : cut? sep cs = none) (hpiece : piece <:+: cs) :
    cut? sep piece = none :=
  cut?_eq_none_iff.2 fun hsep => cut?_eq_none_iff.1 h (hsep.trans hpiece)

/-- The pieces of a text stand in it, and the first one at its beginning. -/
theorem piecesFrom_isInfix (sep : List Char) (skip : Nat) (cs : List Char) :
    ∃ first rest, piecesFrom sep skip cs = first :: rest ∧ first <:+: cs ∧
      (skip = 0 → first <+: cs) ∧ ∀ piece ∈ rest, piece <:+: cs := by
  induction cs generalizing skip with
  | nil => exact ⟨[], [], by cases skip <;> rfl, List.infix_rfl, fun _ => List.prefix_rfl,
      by simp⟩
  | cons c cs ih =>
    cases skip with
    | succ skip =>
      obtain ⟨first, rest, hpieces, hfirst, -, hrest⟩ := ih skip
      exact ⟨first, rest, by rw [piecesFrom, hpieces], List.infix_cons hfirst, nofun,
        fun piece hpiece => List.infix_cons (hrest piece hpiece)⟩
    | zero =>
      rw [piecesFrom]
      split
      · obtain ⟨first, rest, hpieces, hfirst, -, hrest⟩ := ih (sep.length - 1)
        refine ⟨[], _, rfl, List.nil_infix, fun _ => List.nil_prefix, fun piece hpiece => ?_⟩
        rw [hpieces] at hpiece
        rcases List.mem_cons.1 hpiece with rfl | hpiece
        · exact List.infix_cons hfirst
        · exact List.infix_cons (hrest piece hpiece)
      · -- the first piece of the rest begins with it, so it grows to the left
        obtain ⟨first, rest, hpieces, -, hstart, hrest⟩ := ih 0
        have hgrown : c :: first <+: c :: cs := List.prefix_cons_inj c |>.2 (hstart rfl)
        exact ⟨c :: first, rest, by rw [hpieces, extendFirst], hgrown.isInfix, fun _ => hgrown,
          fun piece hpiece => List.infix_cons (hrest piece hpiece)⟩

theorem isInfix_of_mem_pieces (h : piece ∈ pieces sep cs) : piece <:+: cs := by
  obtain ⟨first, rest, hpieces, hfirst, -, hrest⟩ := piecesFrom_isInfix sep 0 cs
  rw [pieces, hpieces] at h
  rcases List.mem_cons.1 h with rfl | h
  · exact hfirst
  · exact hrest piece h

/-! ## Pieces without the separator -/

theorem occurs_iff : occurs sep cs = true ↔ sep <:+: cs := by
  rw [occurs, ← Option.ne_none_iff_isSome, ne_eq, cut?_eq_none_iff, Classical.not_not]

theorem not_isInfix_of_mem_piecesFrom (hsep : sep ≠ []) (skip : Nat) (cs : List Char) :
    ∀ piece ∈ piecesFrom sep skip cs, ¬ sep <:+: piece := by
  induction cs generalizing skip with
  | nil =>
    intro piece hpiece
    rw [show piecesFrom sep skip [] = [[]] by cases skip <;> rfl, List.mem_singleton] at hpiece
    rw [hpiece, List.infix_nil]
    exact hsep
  | cons c cs ih =>
    cases skip with
    | succ skip =>
      rw [piecesFrom]
      exact ih skip
    | zero =>
      rw [piecesFrom]
      split
      · intro piece hpiece
        rcases List.mem_cons.1 hpiece with rfl | hpiece
        · rw [List.infix_nil]
          exact hsep
        · exact ih _ piece hpiece
      · rename_i hstart
        obtain ⟨first, rest, hpieces, -, hfirst, -⟩ := piecesFrom_isInfix sep 0 cs
        have ih := ih 0
        rw [hpieces] at ih ⊢
        intro piece hpiece
        rcases List.mem_cons.1 hpiece with rfl | hpiece
        · -- at the start of this piece the separator would have been found
          rw [List.infix_cons_iff]
          rintro (hbegins | hinside)
          · have hgrown : c :: first <+: c :: cs := (List.prefix_cons_inj c).2 (hfirst rfl)
            exact hstart (List.isPrefixOf_iff_prefix.2 (hbegins.trans hgrown))
          · exact ih first List.mem_cons_self hinside
        · exact ih piece (List.mem_cons_of_mem _ hpiece)

/-- The separator does not stand in any piece. -/
theorem not_isInfix_of_mem_pieces (hsep : sep ≠ []) (h : piece ∈ pieces sep cs) :
    ¬ sep <:+: piece :=
  not_isInfix_of_mem_piecesFrom hsep 0 cs piece h

end Text
end RecordRules
