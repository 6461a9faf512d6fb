import Mathlib.Data.List.TakeWhile
import RecordRules.Proofs.Text.Cutting
import RecordRules.Proofs.Text.Parts

/-!
# The pieces of a text that is put together

A separator is written between blanks.  So it stands apart from the texts on both sides, even where
one of them ends with half a separator.  For separators without blanks:

* `pieces_append_cons`: no separator reaches over a blank, so the pieces beside it are those of the
  texts beside it.
* `trim_pieces_trim`: blanks around a text do not change its trimmed pieces.
* `trim_pieces_spaced`: the trimmed pieces on both sides of a separator are those of the two sides.
* `isInfix_append_cons_iff`: what occurs in a text occurs before or behind a character that it does
  not have.
-/

set_option autoImplicit false

namespace RecordRules
namespace Text

variable {sep cs rest pad : List Char} {b : Char}

/-! ## Occurrences beside a character -/

/-- What does not have the character begins a text if it begins the part in front of it. -/
theorem prefix_append_cons_iff (hb : b ∉ sep) : sep <+: cs ++ b :: rest ↔ sep <+: cs := by
  induction cs generalizing sep with
  | nil =>
    cases sep with
    | nil => simp
    | cons s sep =>
      have hne : s ≠ b := fun h => hb (h ▸ List.mem_cons_self)
      simp [List.cons_prefix_cons, hne]
  | cons c cs ih =>
    cases sep with
    | nil => simp
    | cons s sep =>
      rw [List.cons_append, List.cons_prefix_cons, List.cons_prefix_cons,
        ih (mt (List.mem_cons_of_mem s) hb)]

theorem isInfix_append_cons_iff (hb : b ∉ sep) :
    sep <:+: cs ++ b :: rest ↔ sep <:+: cs ∨ sep <:+: rest := by
  induction cs with
  | nil =>
    rw [List.nil_append, List.infix_cons_iff, ← List.nil_append (b :: rest),
      prefix_append_cons_iff hb, List.prefix_nil, List.infix_nil]
  | cons c cs ih =>
    rw [List.cons_append, List.infix_cons_iff, ← List.cons_append, prefix_append_cons_iff hb, ih,
      List.infix_cons_iff, or_assoc]

theorem isInfix_cons_iff (hb : b ∉ sep) : sep <:+: b :: rest ↔ sep <:+: rest := by
  rw [← List.nil_append (b :: rest), isInfix_append_cons_iff hb, List.infix_nil,
    or_iff_right_iff_imp]
  rintro rfl
  exact List.nil_infix

/-! ## Pieces of both sides -/

/-- A text in which the separator does not stand is one piece. -/
theorem pieces_of_not_isInfix (h : ¬ sep <:+: cs) : pieces sep cs = [cs] := by
  induction cs with
  | nil => rfl
  | cons c cs ih =>
    rw [List.infix_cons_iff, not_or] at h
    have ih := ih h.2
    rw [pieces] at ih ⊢
    rw [piecesFrom, if_neg (mt List.isPrefixOf_iff_prefix.1 h.1), ih, extendFirst]

/-- A separator at the beginning leaves an empty piece in front of it. -/
theorem pieces_separator (hsep : sep ≠ []) (rest : List Char) :
    pieces sep (sep ++ rest) = [] :: pieces sep rest := by
  obtain ⟨s, tail, rfl⟩ := List.exists_cons_of_ne_nil hsep
  have hbegins : (s :: tail).isPrefixOf (s :: (tail ++ rest)) = true :=
    List.isPrefixOf_iff_prefix.2 (List.prefix_append (s :: tail) rest)
  rw [pieces, List.cons_append, piecesFrom, if_pos hbegins]
  exact congrArg ([] :: ·) (piecesFrom_append tail rest)

/-- No separator reaches over a character that it does not have: the pieces are those of the texts
on both sides of the character, the last of the one and the first of the other made one. -/
theorem piecesFrom_append_cons (hsep : sep ≠ []) (hb : b ∉ sep) {skip : Nat}
    (hskip : skip ≤ cs.length) :
    ∃ init last first others, piecesFrom sep skip cs = init ++ [last] ∧
      pieces sep rest = first :: others ∧
      piecesFrom sep skip (cs ++ b :: rest) = init ++ (last ++ b :: first) :: others := by
  obtain ⟨first, others, hrest, -⟩ := piecesFrom_isInfix sep 0 rest
  induction cs generalizing skip with
  | nil =>
    cases Nat.le_zero.1 hskip
    have hbegins : ¬ sep.isPrefixOf (b :: rest) = true := by
      rw [List.isPrefixOf_iff_prefix, ← List.nil_append (b :: rest), prefix_append_cons_iff hb,
        List.prefix_nil]
      exact hsep
    refine ⟨[], [], first, others, rfl, hrest, ?_⟩
    rw [List.nil_append, piecesFrom, if_neg hbegins, hrest]
    rfl
  | cons c cs ih =>
    cases skip with
    | succ skip => exact ih (Nat.le_of_succ_le_succ hskip)
    | zero =>
      rw [List.cons_append, piecesFrom, piecesFrom, ← List.cons_append]
      by_cases hbegins : sep <+: c :: cs
      · have hlength : sep.length - 1 ≤ cs.length := by
          have := hbegins.length_le
          simp only [List.length_cons] at this
          omega
        obtain ⟨init, last, first, others, hcs, hrest, hwhole⟩ := ih hlength
        refine ⟨[] :: init, last, first, others, ?_, hrest, ?_⟩
        · rw [if_pos (List.isPrefixOf_iff_prefix.2 hbegins), hcs]
          rfl
        · rw [if_pos (List.isPrefixOf_iff_prefix.2 ((prefix_append_cons_iff hb).2 hbegins)), hwhole]
          rfl
      · obtain ⟨init, last, first, others, hcs, hrest, hwhole⟩ := ih (Nat.zero_le _)
        rw [if_neg (mt List.isPrefixOf_iff_prefix.1 hbegins), hcs,
          if_neg (mt List.isPrefixOf_iff_prefix.1 (mt (prefix_append_cons_iff hb).1 hbegins)),
          hwhole]
        cases init with
        | nil => exact ⟨[], c :: last, first, others, rfl, hrest, rfl⟩
        | cons piece init => exact ⟨(c :: piece) :: init, last, first, others, rfl, hrest, rfl⟩

theorem pieces_append_cons (hsep : sep ≠ []) (hb : b ∉ sep) (cs rest : List Char) :
    ∃ init last first others, pieces sep cs = init ++ [last] ∧
      pieces sep rest = first :: others ∧
      pieces sep (cs ++ b :: rest) = init ++ (last ++ b :: first) :: others :=
  piecesFrom_append_cons hsep hb (Nat.zero_le _)

/-! ## Trimmed pieces -/

theorem trim_cons (hb : isBlank b = true) (cs : List Char) : trim (b :: cs) = trim cs := by
  rw [trim, trimLeft, List.dropWhile_cons_of_pos hb, trim, trimLeft]

theorem trim_concat (hb : isBlank b = true) (cs : List Char) : trim (cs ++ [b]) = trim cs := by
  have hpad : ∀ c ∈ [b], isBlank c = true := List.forall_mem_singleton.2 hb
  rw [trim, trim, trimLeft, trimLeft, List.dropWhile_append]
  split
  · rename_i hempty
    rw [List.isEmpty_iff.1 hempty, List.dropWhile_cons_of_pos hb, List.dropWhile_nil]
  · exact trimRight_append hpad

theorem isBlank_of_trimLeft_eq {c : Char} {rest : List Char} (h : trimLeft cs = c :: rest) :
    isBlank c = false := by
  have hhead := List.head?_dropWhile_not isBlank cs
  rw [← trimLeft, h] at hhead
  exact hhead

theorem isTight_trim (h : trim cs ≠ []) : IsTight (trim cs) := by
  constructor
  · obtain ⟨c, rest, htrim⟩ := List.exists_cons_of_ne_nil h
    have hprefix : trim cs <+: trimLeft cs := by
      rw [trim, trimRight, ← List.reverse_suffix, List.reverse_reverse]
      exact List.dropWhile_suffix isBlank
    obtain ⟨more, hleft⟩ := htrim ▸ hprefix
    rw [htrim]
    exact ⟨c, rfl, isBlank_of_trimLeft_eq hleft.symm⟩
  · obtain ⟨c, rest, hreverse⟩ := List.exists_cons_of_ne_nil (List.reverse_ne_nil_iff.2 h)
    have hdrop : trimLeft (trimLeft cs).reverse = c :: rest := by
      rw [← hreverse, trim, trimRight, List.reverse_reverse, trimLeft]
    rw [List.getLast?_eq_head?_reverse, hreverse]
    exact ⟨c, rfl, isBlank_of_trimLeft_eq hdrop⟩

theorem trim_trim (cs : List Char) : trim (trim cs) = trim cs := by
  by_cases hnil : trim cs = []
  · rw [hnil]
    rfl
  · exact (isTight_trim hnil).trim_eq

/-- A text with the blanks at its ends. -/
theorem exists_append_trim (cs : List Char) :
    ∃ pre post, (∀ c ∈ pre, isBlank c = true) ∧ (∀ c ∈ post, isBlank c = true) ∧
      pre ++ trim cs ++ post = cs := by
  refine ⟨cs.takeWhile isBlank, ((trimLeft cs).reverse.takeWhile isBlank).reverse,
    fun c hc => List.mem_takeWhile_imp hc,
    fun c hc => List.mem_takeWhile_imp (List.mem_reverse.1 hc), ?_⟩
  have hright : trim cs ++ ((trimLeft cs).reverse.takeWhile isBlank).reverse = trimLeft cs := by
    rw [trim, trimRight, ← List.reverse_append, List.takeWhile_append_dropWhile,
      List.reverse_reverse]
  rw [List.append_assoc, hright]
  exact List.takeWhile_append_dropWhile

theorem not_mem_of_isBlank (hfree : ∀ c ∈ sep, isBlank c = false) (hb : isBlank b = true) :
    b ∉ sep := fun hmem => by
  rw [hfree b hmem] at hb
  cases hb

section Blank

variable (hsep : sep ≠ []) (hfree : ∀ c ∈ sep, isBlank c = false) (hb : isBlank b = true)
include hsep hfree hb

theorem trim_pieces_cons (cs : List Char) :
    (pieces sep (b :: cs)).map trim = (pieces sep cs).map trim := by
  have hmem := not_mem_of_isBlank hfree hb
  obtain ⟨init, last, first, others, hnil, hcs, hwhole⟩ := pieces_append_cons hsep hmem [] cs
  obtain ⟨rfl, rfl⟩ : init = [] ∧ last = [] := by
    simpa using List.append_eq_singleton_iff.1 hnil.symm
  rw [List.nil_append] at hwhole
  rw [hwhole, hcs]
  simp [trim_cons hb]

theorem trim_pieces_concat (cs : List Char) :
    (pieces sep (cs ++ [b])).map trim = (pieces sep cs).map trim := by
  have hmem := not_mem_of_isBlank hfree hb
  obtain ⟨init, last, first, others, hcs, hnil, hwhole⟩ := pieces_append_cons hsep hmem cs []
  obtain ⟨rfl, rfl⟩ : [] = first ∧ [] = others := List.cons.inj hnil
  rw [hwhole, hcs]
  simp [trim_concat hb]

/-- The trimmed pieces of a text with a blank and the separator in it. -/
theorem trim_pieces_append (cs rest : List Char) :
    (pieces sep (cs ++ b :: (sep ++ rest))).map trim =
      (pieces sep cs).map trim ++ (pieces sep rest).map trim := by
  have hmem := not_mem_of_isBlank hfree hb
  obtain ⟨init, last, first, others, hcs, hrest, hwhole⟩ :=
    pieces_append_cons hsep hmem cs (sep ++ rest)
  rw [pieces_separator hsep] at hrest
  obtain ⟨rfl, rfl⟩ := List.cons.inj hrest
  rw [hwhole, hcs]
  simp [trim_concat hb]

end Blank

section Trimmed

variable (hsep : sep ≠ []) (hfree : ∀ c ∈ sep, isBlank c = false)
include hsep hfree

theorem trim_pieces_pad_append (hpad : ∀ c ∈ pad, isBlank c = true) (cs : List Char) :
    (pieces sep (pad ++ cs)).map trim = (pieces sep cs).map trim := by
  induction pad with
  | nil => rfl
  | cons c pad ih =>
    rw [List.forall_mem_cons] at hpad
    rw [List.cons_append, trim_pieces_cons hsep hfree hpad.1, ih hpad.2]

theorem trim_pieces_append_pad (hpad : ∀ c ∈ pad, isBlank c = true) (cs : List Char) :
    (pieces sep (cs ++ pad)).map trim = (pieces sep cs).map trim := by
  induction pad generalizing cs with
  | nil => rw [List.append_nil]
  | cons c pad ih =>
    rw [List.forall_mem_cons] at hpad
    rw [List.append_cons, ih hpad.2, trim_pieces_concat hsep hfree hpad.1]

/-- **The trimmed pieces of a text do not depend on the blanks around it.** -/
theorem trim_pieces_trim (cs : List Char) :
    (pieces sep (trim cs)).map trim = (pieces sep cs).map trim := by
  obtain ⟨pre, post, hpre, hpost, hcs⟩ := exists_append_trim cs
  rw [← congrArg (pieces sep) hcs, trim_pieces_append_pad hsep hfree hpost,
    trim_pieces_pad_append hsep hfree hpre]

/-- **The trimmed pieces of two texts with the separator between them are those of the one and
those of the other.** -/
theorem trim_pieces_spaced (cs rest : List Char) :
    (pieces sep (cs ++ spaced sep ++ rest)).map trim =
      (pieces sep cs).map trim ++ (pieces sep rest).map trim := by
  have hb : isBlank ' ' = true := rfl
  have htext : cs ++ spaced sep ++ rest = cs ++ ' ' :: (sep ++ ' ' :: rest) := by simp [spaced]
  rw [htext, trim_pieces_append hsep hfree hb, trim_pieces_cons hsep hfree hb]

end Trimmed

end Text
end RecordRules
