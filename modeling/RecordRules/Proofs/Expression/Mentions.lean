import RecordRules.Proofs.Expression.Likeness

/-!
# Expressions see no more than they mention

The names that an expression can look up are parts of its text.

* `Mentions`: a name stands somewhere in the text of an expression.
* `AgreeOn`: two collections of named values have the same under every name that is mentioned.
* `evaluate_of_agreeOn`: in contexts that agree an expression has the same outcome.

A context can also have a whole record under a name.  Of a record an expression sees the fields that
it mentions, unless it asks whether the record equals another map:

* `AgreeUpTo`: contexts agree but for records under certain names, and those agree in turn.
* `Equates`: an expression asks whether two maps are equal, one of them under such a name.
* `AgreeUpTo.holds_eq` and `AgreeUpTo.toOption_evaluate_eq`: without that question the difference
  between the records is not seen.
-/

set_option autoImplicit false

namespace RecordRules

namespace Value

variable {v : Value}

theorem entries?_eq_none (h : ∀ entries, v ≠ .map entries) : v.entries? = none := by
  cases v with
  | map entries => exact absurd rfl (h entries)
  | _ => rfl

/-- A map equals nothing but maps. -/
theorem equal_map_left (entries : List (String × Value)) (h : v.entries? = none) :
    equal (.map entries) v = .ok false := by
  cases v with
  | map => cases h
  | _ => simp [equal, same, sameItem]

theorem equal_map_right (entries : List (String × Value)) (h : v.entries? = none) :
    equal v (.map entries) = .ok false := by
  cases v with
  | map => cases h
  | _ => simp [equal, same, sameItem, sameScalar]

end Value

namespace Expression

open Outcome (Related)

/-! ## What is mentioned -/

/-- A name stands somewhere in the text of an expression. -/
def Mentions (expression name : String) : Prop := name.toList <:+: expression.toList

instance (expression name : String) : Decidable (Mentions expression name) :=
  inferInstanceAs (Decidable (name.toList <:+: expression.toList))

/-- The same stands under every name that an expression mentions. -/
def AgreeOn (expression : String) (fields fields' : Fields Value) : Prop :=
  ∀ name, Mentions expression name → fields.get? name = fields'.get? name

variable {expression name : String} {part : List Char} {c d : Context}

theorem AgreeOn.set (h : AgreeOn expression c d) {v w : Value}
    (hvw : Mentions expression name → v = w) :
    AgreeOn expression (Fields.set c name v) (Fields.set d name w) := by
  intro other hother
  rw [Fields.get?_set, Fields.get?_set]
  split
  · rename_i hsame
    rw [hvw (hsame ▸ hother)]
  · exact h other hother

/-- A field that is not mentioned can be added or changed. -/
theorem agreeOn_set_of_not_mentions (fields : Fields Value) (v : Value)
    (h : ¬ Mentions expression name) : AgreeOn expression fields (fields.set name v) := by
  intro other hother
  rw [Fields.get?_set_other fields v]
  rintro rfl
  exact h hother

theorem mentions_ofList :
    Mentions expression (String.ofList part) ↔ part <:+: expression.toList := by
  rw [Mentions, String.toList_ofList]

/-- Two runs that read the same are the same. -/
def Likeness.mentioned (expression : String) : Likeness where
  Reads part := part <:+: expression.toList
  Values := Eq
  Lists := Eq
  Errors := Eq
  reads_part ht hpart := hpart.trans ht
  values_refl _ := rfl
  errors_refl _ := rfl
  at? h _ := rel_of_eq (fun _ => rfl) (h ▸ rfl)
  isTrue h := h ▸ rfl
  toNumber h := h ▸ rfl
  kindOf h := h ▸ rfl
  items? h := rel_of_eq (fun _ => rfl) (h ▸ rfl)
  column _ h := h ▸ rfl
  total h := h ▸ rfl
  notAList _ _ h := .of_eq (fun _ => rfl) (fun _ => rfl) (h ▸ rfl)
  within _ h := h ▸ rfl

theorem eq_of_related {α : Type} {x y : Outcome α} (h : Related Eq Eq x y) : x = y := by
  cases h with
  | ok h => rw [h]
  | error h => rw [h]

/-- **An expression has the same outcome in contexts that agree on the names it mentions**: the same
value, or the same error. -/
theorem evaluate_of_agreeOn (limits : Limits) (h : AgreeOn expression c d) :
    evaluate limits c expression = evaluate limits d expression := by
  have hcontexts : (Likeness.mentioned expression).Contexts c d := fun part hpart =>
    rel_of_eq (fun _ => rfl) (h _ (mentions_ofList.2 hpart))
  have hsimple : ∀ part, part <:+: expression.toList → simpleValue c part = simpleValue d part :=
    fun part hpart => eq_of_related (hcontexts.simpleValue_related hpart)
  have htrim := Text.trim_isInfix expression.toList
  refine eq_of_related (hcontexts.evaluate_related (fun _ => rfl) limits List.infix_rfl ?_
    (hcontexts.reference_related htrim))
  intro op left right hfind v w v' w' hv hw hv' hw'
  obtain ⟨hl, hr⟩ := findComparison?_isInfix hfind
  rw [hsimple _ ((Text.trim_isInfix left).trans (hl.trans htrim)), hw] at hv
  rw [hsimple _ ((Text.trim_isInfix right).trans (hr.trans htrim)), hw'] at hv'
  cases hv
  cases hv'
  rfl

/-! ## Records as wholes -/

/-- Two values are the same, or maps that agree on the names that an expression mentions. -/
inductive ValuesAgreeOn (expression : String) : Value → Value → Prop
  | same (v : Value) : ValuesAgreeOn expression v v
  | map {fields fields' : Fields Value} (h : AgreeOn expression fields fields') :
    ValuesAgreeOn expression (.map fields) (.map fields')

namespace ValuesAgreeOn

variable {v w : Value}

theorem at?_eq (h : ValuesAgreeOn expression v w) (hname : Mentions expression name) :
    v.at? name = w.at? name := by
  cases h with
  | same => rfl
  | map h => exact h name hname

theorem isTrue (h : ValuesAgreeOn expression v w) : v.isTrue = w.isTrue := by cases h <;> rfl

theorem toNumber (h : ValuesAgreeOn expression v w) : v.toNumber = w.toNumber := by cases h <;> rfl

theorem kindOf (h : ValuesAgreeOn expression v w) :
    Expression.kindOf v = Expression.kindOf w := by
  cases h <;> rfl

theorem items? (h : ValuesAgreeOn expression v w) : v.items? = w.items? := by cases h <;> rfl

end ValuesAgreeOn

/-- Two runs that read the same but for maps, of which they read the same. -/
def Likeness.mentionedInMaps (expression : String) : Likeness where
  Reads part := part <:+: expression.toList
  Values := ValuesAgreeOn expression
  Lists := Eq
  Errors _ _ := True
  reads_part ht hpart := hpart.trans ht
  values_refl := .same
  errors_refl _ := trivial
  at? h hname := rel_of_eq .same (h.at?_eq (mentions_ofList.2 hname))
  isTrue h := h.isTrue
  toNumber h := h.toNumber
  kindOf h := h.kindOf
  items? h := rel_of_eq (fun _ => rfl) h.items?
  column _ h := h ▸ rfl
  total h := h ▸ rfl
  notAList _ _ _ := by
    rw [Expression.notAList, Expression.notAList]
    split <;> split <;> exact .error trivial
  within _ _ := trivial

/-- The same stands under every name that an expression mentions, but for maps under certain names,
which agree on these names. -/
def AgreeUpTo (wholes : List String) (expression : String) (c d : Context) : Prop :=
  ∀ name, Mentions expression name → c.get? name = d.get? name ∨
    name ∈ wholes ∧ Option.Rel (ValuesAgreeOn expression) (c.get? name) (d.get? name)

/-- An expression asks whether two maps are equal or not, and one of them is what stands under one
of certain names. -/
def Equates (wholes : List String) (c : Context) (expression : String) : Prop :=
  ∃ op left right, findComparison? (Text.trim expression.toList) = some (op, left, right) ∧
    (op = .equal ∨ op = .unequal) ∧
    (String.ofList (Text.trim left) ∈ wholes ∨ String.ofList (Text.trim right) ∈ wholes) ∧
    ∃ m n, simpleValue c (Text.trim left) = .ok (.map m) ∧
      simpleValue c (Text.trim right) = .ok (.map n)

variable {wholes : List String}

namespace AgreeUpTo

theorem of_agreeOn (h : AgreeOn expression c d) : AgreeUpTo wholes expression c d :=
  fun name hname => .inl (h name hname)

theorem set (h : AgreeUpTo wholes expression c d) {v w : Value}
    (hvw : Mentions expression name → v = w ∨ name ∈ wholes ∧ ValuesAgreeOn expression v w) :
    AgreeUpTo wholes expression (Fields.set c name v) (Fields.set d name w) := by
  intro other hother
  rw [Fields.get?_set, Fields.get?_set]
  split
  · rename_i hsame
    subst hsame
    rcases hvw hother with rfl | ⟨hmem, hvw⟩
    · exact .inl rfl
    · exact .inr ⟨hmem, .some hvw⟩
  · exact h other hother

theorem set_same (h : AgreeUpTo wholes expression c d) (name : String) (v : Value) :
    AgreeUpTo wholes expression (Fields.set c name v) (Fields.set d name v) :=
  h.set fun _ => .inl rfl

theorem set_map (h : AgreeUpTo wholes expression c d) (hname : name ∈ wholes)
    {fields fields' : Fields Value} (hfields : AgreeOn expression fields fields') :
    AgreeUpTo wholes expression (Fields.set c name (.map fields))
      (Fields.set d name (.map fields')) :=
  h.set fun _ => .inr ⟨hname, .map hfields⟩

variable (h : AgreeUpTo wholes expression c d)
include h

theorem contexts : (Likeness.mentionedInMaps expression).Contexts c d := fun part hpart => by
  rcases h _ (mentions_ofList.2 hpart) with heq | ⟨-, hrel⟩
  · exact rel_of_eq .same heq
  · exact hrel

/-- A path leads into the records, to fields that are mentioned. -/
theorem pathValue?_eq (hpart : part <:+: expression.toList) :
    pathValue? c part = pathValue? d part := by
  have hpieces : ∀ piece ∈ Text.pieces ['.'] part, piece <:+: expression.toList :=
    fun piece hpiece => (Text.isInfix_of_mem_pieces hpiece).trans hpart
  rw [pathValue?, pathValue?]
  split
  · rename_i head segment path hpath
    rw [hpath, List.forall_mem_cons, List.forall_mem_cons] at hpieces
    have hhead := h.contexts head hpieces.1
    generalize c.get? (String.ofList head) = x, d.get? (String.ofList head) = y at hhead
    cases hhead with
    | none => rfl
    | some hvw =>
      dsimp only
      rw [walk?_cons, walk?_cons, hvw.at?_eq (mentions_ofList.2 hpieces.2.1)]
  · rfl

theorem reference_eq (hpart : part <:+: expression.toList) (hwhole : String.ofList part ∉ wholes) :
    reference c part = reference d part := by
  have hname : c.get? (String.ofList part) = d.get? (String.ofList part) :=
    (h _ (mentions_ofList.2 hpart)).resolve_right fun hmem => hwhole hmem.1
  rw [reference, reference, hname, h.pathValue?_eq hpart]

/-- The values of a text in both contexts are the same, or maps under one of the names. -/
theorem simpleValue_eq_or (hpart : part <:+: expression.toList) {v w : Value}
    (hv : simpleValue c part = .ok v) (hw : simpleValue d part = .ok w) :
    v = w ∨ String.ofList part ∈ wholes ∧
      ∃ m n, v = .map m ∧ w = .map n := by
  rw [simpleValue] at hv hw
  cases hliteral : ofValueError (Value.literal? part) with
  | error e =>
    rw [hliteral] at hv
    cases hv
  | ok literal =>
    rw [hliteral, ok_bind] at hv hw
    cases literal with
    | some value =>
      cases hv
      cases hw
      exact .inl rfl
    | none =>
      cases hv
      cases hw
      by_cases hwhole : String.ofList part ∈ wholes
      · have hrelated : ValuesAgreeOn expression (reference c part) (reference d part) :=
          h.contexts.reference_related hpart
        generalize reference c part = v, reference d part = w at hrelated
        cases hrelated with
        | same => exact .inl rfl
        | map => exact .inr ⟨hwhole, _, _, rfl, rfl⟩
      · exact .inl (h.reference_eq hpart hwhole)

/-- A comparison other than by equality sees no more than numbers, and equality sees a map only if
both sides are maps. -/
theorem compares (hequates : ¬ Equates wholes c expression) :
    Likeness.Compares c d (Text.trim expression.toList) := by
  intro op left right hfind v w v' w' hv hw hv' hw'
  obtain ⟨hl, hr⟩ := findComparison?_isInfix hfind
  have htrim := Text.trim_isInfix expression.toList
  have hleft := h.simpleValue_eq_or ((Text.trim_isInfix left).trans (hl.trans htrim)) hv hw
  have hright := h.simpleValue_eq_or ((Text.trim_isInfix right).trans (hr.trans htrim)) hv' hw'
  have hnumber : v.toNumber = w.toNumber := by
    rcases hleft with rfl | ⟨-, _, _, rfl, rfl⟩ <;> rfl
  have hnumber' : v'.toNumber = w'.toNumber := by
    rcases hright with rfl | ⟨-, _, _, rfl, rfl⟩ <;> rfl
  -- an equation of two maps is excluded, so a record on one side equals nothing on the other
  have hequal : op = .equal ∨ op = .unequal → v.equal v' = w.equal w' := by
    intro hop
    have hmaps : (String.ofList (Text.trim left) ∈ wholes ∨
        String.ofList (Text.trim right) ∈ wholes) → ∀ m n, v = .map m → v' ≠ .map n :=
      fun hmem m n hm hn => hequates ⟨op, left, right, hfind, hop, hmem, m, n, hm ▸ hv, hn ▸ hv'⟩
    rcases hleft with rfl | ⟨hmem, m, n, rfl, rfl⟩
    · rcases hright with rfl | ⟨hmem', m', n', rfl, rfl⟩
      · rfl
      · have hv := Value.entries?_eq_none fun m hm => hmaps (.inr hmem') m m' hm rfl
        rw [Value.equal_map_right _ hv, Value.equal_map_right _ hv]
    · have hv' := Value.entries?_eq_none fun n hn => hmaps (.inl hmem) m n rfl hn
      obtain rfl : v' = w' := by
        rcases hright with rfl | ⟨-, m', n', rfl, rfl⟩
        · rfl
        · cases hv'
      rw [Value.equal_map_left _ hv', Value.equal_map_left _ hv']
  cases op with
  | equal => exact hequal (.inl rfl)
  | unequal => rw [Comparison.decide, Comparison.decide, hequal (.inr rfl)]
  | _ => rw [Comparison.decide, Comparison.decide, hnumber, hnumber'] <;> nofun

/-- **A condition comes out the same** in contexts that agree on the names it mentions, but for
records that it does not compare as wholes. -/
theorem holds_eq (limits : Limits) (hequates : ¬ Equates wholes c expression) :
    holds limits c expression = holds limits d expression := by
  have htrim := Text.trim_isInfix expression.toList
  have hrelated := h.contexts.evaluate_related .same limits List.infix_rfl (h.compares hequates)
    (h.contexts.reference_related htrim)
  rw [holds, holds]
  generalize evaluate limits c expression = x, evaluate limits d expression = y at hrelated
  cases hrelated with
  | ok hvalues => exact hvalues.isTrue
  | error => rfl

/-- **The value of an expression is the same**, too, unless the expression is the name of a
record. -/
theorem toOption_evaluate_eq (limits : Limits) (hequates : ¬ Equates wholes c expression)
    (hwhole : String.ofList (Text.trim expression.toList) ∉ wholes) :
    (evaluate limits c expression).toOption = (evaluate limits d expression).toOption := by
  have htrim := Text.trim_isInfix expression.toList
  have hrelated : Related (fun _ _ => True) Eq (evaluate limits c expression)
      (evaluate limits d expression) :=
    h.contexts.evaluate_related (fun _ => rfl) limits List.infix_rfl (h.compares hequates)
      (h.reference_eq htrim hwhole)
  generalize evaluate limits c expression = x, evaluate limits d expression = y at hrelated
  cases hrelated with
  | ok hvalues => rw [hvalues]
  | error => rfl

end AgreeUpTo

end Expression
end RecordRules
