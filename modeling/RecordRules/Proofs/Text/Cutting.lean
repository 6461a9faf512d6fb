import RecordRules.Text.Blank
import RecordRules.Text.Split

/-!
# Cutting a written text back into its parts

A text that is written by joining parts with a separator, a blank at either side of it, comes apart
again at the separator:

* `cut?_append` finds the first separator, `cut?_eq_none_of_count_lt` says that there is none.
* `IsTight.trim_append` drops the blanks around a part.
* `trim_pieces_joined` is the whole: the trimmed pieces of a joined text are the parts.
* `pieces_singleton` compares the pieces with `List.splitOn`.
-/

set_option autoImplicit false

namespace RecordRules
namespace Text

variable {cs pad part : List Char} {sep : List Char} {s c : Char}

/-! ## Finding a separator -/

/-- A character stands in a text at least as often as in what occurs in it. -/
theorem cut?_eq_none_of_count_lt (c : Char) (h : cs.count c < sep.count c) :
    cut? sep cs = none :=
  cut?_eq_none_iff.2 fun hin => Nat.not_le.2 h (hin.sublist.count_le c)

theorem cut?_eq_none_of_not_mem (hc : c ∈ sep) (h : c ∉ cs) : cut? sep cs = none :=
  cut?_eq_none_of_count_lt c (by rw [List.count_eq_zero.2 h]; exact List.count_pos_iff.2 hc)

theorem occurs_eq_false_of_not_mem (hc : c ∈ sep) (h : c ∉ cs) : occurs sep cs = false := by
  rw [occurs, cut?_eq_none_of_not_mem hc h]; rfl

/-- A cut is made where the first character of the separator is first met. -/
theorem cut?_append (h : s ∉ cs) (after : List Char) :
    cut? (s :: sep) (cs ++ (s :: sep ++ after)) = some (cs, after) := by
  induction cs with
  | nil => simp [cut?]
  | cons c cs ih =>
    obtain ⟨hne, hmem⟩ := not_or.1 (mt List.mem_cons.2 h)
    rw [List.cons_append, cut?, ih hmem]
    simp [hne]

/-! ## Pieces -/

theorem piecesFrom_append (skipped after : List Char) :
    piecesFrom sep skipped.length (skipped ++ after) = piecesFrom sep 0 after := by
  induction skipped with
  | nil => rfl
  | cons _ _ ih => simpa [piecesFrom] using ih

/-- A text without the separator is one piece. -/
theorem pieces_of_not_mem (h : s ∉ cs) : pieces (s :: sep) cs = [cs] := by
  induction cs with
  | nil => rfl
  | cons c cs ih =>
    obtain ⟨hne, hmem⟩ := not_or.1 (mt List.mem_cons.2 h)
    rw [pieces] at ih ⊢
    simp [piecesFrom, hne, ih hmem, extendFirst]

/-- The first piece reaches to the first separator. -/
theorem pieces_append (h : s ∉ cs) (after : List Char) :
    pieces (s :: sep) (cs ++ (s :: sep ++ after)) = cs :: pieces (s :: sep) after := by
  induction cs with
  | nil => simp [pieces, piecesFrom, piecesFrom_append]
  | cons c cs ih =>
    obtain ⟨hne, hmem⟩ := not_or.1 (mt List.mem_cons.2 h)
    have ih := ih hmem
    rw [pieces] at ih ⊢
    simp only [List.cons_append] at ih ⊢
    simp [piecesFrom, hne, ih, extendFirst]

/-- Between single characters, the pieces are those of `List.splitOn`. -/
theorem pieces_singleton : pieces [c] cs = cs.splitOn c := by
  induction cs with
  | nil => simp [pieces, piecesFrom]
  | cons d cs ih =>
    rw [List.splitOn, List.splitOnP_cons_eq_if_modifyHead, ← List.splitOn, ← ih, pieces, pieces]
    by_cases hd : c = d
    · simp [piecesFrom, hd]
    · have : piecesFrom [c] 0 cs ≠ [] := by
        rw [← pieces, ih]; exact List.splitOnP_ne_nil _ _
      obtain ⟨piece, rest, hp⟩ := List.exists_cons_of_ne_nil this
      simp [piecesFrom, hd, Ne.symm hd, hp, extendFirst]

/-! ## Blanks around a part -/

theorem trimLeft_append (hpad : ∀ c ∈ pad, isBlank c = true) :
    trimLeft (pad ++ part) = trimLeft part := by
  rw [trimLeft, List.dropWhile_append_of_pos hpad, trimLeft]

theorem trimRight_append (hpad : ∀ c ∈ pad, isBlank c = true) :
    trimRight (part ++ pad) = trimRight part := by
  rw [trimRight, List.reverse_append, List.dropWhile_append_of_pos (by simpa using hpad), trimRight]

/-- A text that has no blank at its ends, and is not empty. -/
structure IsTight (cs : List Char) : Prop where
  head : ∃ c, cs.head? = some c ∧ isBlank c = false
  last : ∃ c, cs.getLast? = some c ∧ isBlank c = false

theorem IsTight.trimLeft_eq (h : IsTight cs) : trimLeft cs = cs := by
  obtain ⟨c, hc, hb⟩ := h.head
  obtain ⟨rest, rfl⟩ := List.head?_eq_some_iff.1 hc
  simp [trimLeft, hb]

theorem IsTight.trimRight_eq (h : IsTight cs) : trimRight cs = cs := by
  obtain ⟨c, hc, hb⟩ := h.last
  obtain ⟨rest, rfl⟩ := List.getLast?_eq_some_iff.1 hc
  simp [trimRight, hb]

theorem IsTight.trim_eq (h : IsTight cs) : trim cs = cs := by
  rw [trim, h.trimLeft_eq, h.trimRight_eq]

/-- The blanks around a text are dropped, and no others. -/
theorem IsTight.trim_append (h : IsTight part) (pad post : List Char)
    (hpad : ∀ c ∈ pad, isBlank c = true) (hpost : ∀ c ∈ post, isBlank c = true) :
    trim (pad ++ part ++ post) = part := by
  have hleft : trimLeft (part ++ post) = part ++ post := by
    obtain ⟨c, hc, hb⟩ := h.head
    obtain ⟨rest, rfl⟩ := List.head?_eq_some_iff.1 hc
    simp [trimLeft, hb]
  rw [trim, List.append_assoc, trimLeft_append hpad, hleft, trimRight_append hpost, h.trimRight_eq]

/-- Two such texts, and anything between them, make one. -/
theorem IsTight.append {cs' : List Char} (h : IsTight cs) (h' : IsTight cs') (mid : List Char) :
    IsTight (cs ++ (mid ++ cs')) := by
  obtain ⟨c, hc, hb⟩ := h.head
  obtain ⟨c', hc', hb'⟩ := h'.last
  obtain ⟨rest, rfl⟩ := List.head?_eq_some_iff.1 hc
  obtain ⟨rest', rfl⟩ := List.getLast?_eq_some_iff.1 hc'
  refine ⟨⟨c, rfl, hb⟩, ⟨c', ?_, hb'⟩⟩
  rw [List.getLast?_append, List.getLast?_append, hc']; rfl

theorem IsTight.of_forall (hne : cs ≠ []) (h : ∀ c ∈ cs, isBlank c = false) : IsTight cs :=
  ⟨⟨cs.head hne, List.head?_eq_some_head hne, h _ (List.head_mem hne)⟩,
    ⟨cs.getLast hne, List.getLast?_eq_some_getLast hne, h _ (List.getLast_mem hne)⟩⟩

/-! ## Parts joined by a separator -/

/-- A separator with a blank at either side. -/
def spaced (sep : List Char) : List Char := ' ' :: sep ++ [' ']

theorem mem_spaced : c ∈ spaced sep ↔ c = ' ' ∨ c ∈ sep := by
  simp [spaced, or_comm]

/-- Parts with the separator, and a blank at either side of it, between them. -/
def joined (sep : List Char) (parts : List (List Char)) : List Char :=
  (spaced sep).intercalate parts

variable {first second : List Char} {rest : List (List Char)}

@[simp] theorem joined_singleton : joined sep [first] = first := List.intercalate_singleton

theorem joined_cons_cons : joined sep (first :: second :: rest)
    = (first ++ [' ']) ++ (sep ++ (' ' :: joined sep (second :: rest))) := by
  simp [joined, List.intercalate_cons_cons, spaced]

theorem isTight_joined (h : ∀ p ∈ first :: rest, IsTight p) :
    IsTight (joined sep (first :: rest)) := by
  induction rest generalizing first with
  | nil => simpa using h first (by simp)
  | cons second rest ih =>
    rw [joined, List.intercalate_cons_cons, List.append_assoc]
    exact (h first (by simp)).append (ih fun p hp => h p (List.mem_cons_of_mem _ hp)) _

theorem not_mem_joined {parts : List (List Char)} (hb : c ≠ ' ') (hsep : c ∉ sep)
    (h : ∀ p ∈ parts, c ∉ p) : c ∉ joined sep parts := by
  induction parts with
  | nil => simp [joined]
  | cons first rest ih =>
    have ih := ih fun p hp => h p (List.mem_cons_of_mem _ hp)
    cases rest with
    | nil => simpa using h first (by simp)
    | cons second rest =>
      rw [joined, List.intercalate_cons_cons, ← joined]
      simp [mem_spaced, hb, hsep, h first, ih]

theorem blank_mem_joined : ' ' ∈ joined sep (first :: second :: rest) := by
  simp [joined_cons_cons]

/-- A joined text is cut behind its first part. -/
theorem cut?_joined (hs : s ≠ ' ') (h : s ∉ first) :
    cut? (s :: sep) (joined (s :: sep) (first :: second :: rest))
      = some (first ++ [' '], ' ' :: joined (s :: sep) (second :: rest)) := by
  rw [joined_cons_cons, cut?_append (by simp [hs, h])]

theorem occurs_joined (hs : s ≠ ' ') (h : s ∉ first) :
    occurs (s :: sep) (joined (s :: sep) (first :: second :: rest)) = true := by
  rw [occurs, cut?_joined hs h]; rfl

theorem trim_append_blank (h : IsTight part) : trim (part ++ [' ']) = part :=
  h.trim_append [] [' '] (by simp) (by simp; rfl)

theorem trim_cons_blank (h : IsTight part) : trim (' ' :: part) = part := by
  simpa using h.trim_append [' '] [] (by simp; rfl) (by simp)

/-- The trimmed pieces of a joined text are the parts, also when a blank stands in front of it. -/
theorem trim_pieces_append_joined (hs : s ≠ ' ') (hpad : ∀ c ∈ pad, c = ' ')
    (h : ∀ p ∈ first :: rest, IsTight p ∧ s ∉ p) :
    (pieces (s :: sep) (pad ++ joined (s :: sep) (first :: rest))).map trim = first :: rest := by
  induction rest generalizing first pad with
  | nil =>
    obtain ⟨htight, hfirst⟩ := h first (by simp)
    have hblank : ∀ c ∈ pad, isBlank c = true := fun c hc => by rw [hpad c hc]; rfl
    have hfree : s ∉ pad := fun hmem => hs (hpad s hmem)
    rw [joined_singleton, pieces_of_not_mem (by simp [hfree, hfirst])]
    simpa using htight.trim_append pad [] hblank (by simp)
  | cons second rest ih =>
    obtain ⟨htight, hfirst⟩ := h first (by simp)
    have hblank : ∀ c ∈ pad, isBlank c = true := fun c hc => by rw [hpad c hc]; rfl
    have hfree : s ∉ pad := fun hmem => hs (hpad s hmem)
    have hnext := @ih [' '] second (by simp)
      fun p hp => h p (List.mem_cons_of_mem first hp)
    rw [joined_cons_cons, ← List.append_assoc, pieces_append (by simp [hfree, hfirst, hs]),
      List.map_cons, ← List.append_assoc, htight.trim_append pad [' '] hblank (by simp; rfl)]
    exact congrArg (first :: ·) hnext

/-- **The trimmed pieces of a joined text are the parts.** -/
theorem trim_pieces_joined (hs : s ≠ ' ') (h : ∀ p ∈ first :: rest, IsTight p ∧ s ∉ p) :
    (pieces (s :: sep) (joined (s :: sep) (first :: rest))).map trim = first :: rest :=
  @trim_pieces_append_joined [] sep s first rest hs (by simp) h

end Text
end RecordRules
