import Mathlib.Data.Option.Basic
import RecordRules.Expression.Evaluate
import RecordRules.Proofs.Outcome
import RecordRules.Proofs.Text.Parts

/-!
# Two runs of an expression

An expression is evaluated in two contexts, and the outcomes are as alike as what was read.

* `Likeness`: which texts are read, and how values, lists and errors of the two runs are related.
* `Likeness.Contexts`: two contexts have related values under every name that is read.
* There is one lemma for each function of the evaluation.  Whatever it reads are parts of its text,
  so the lemmas ask for no more than that the text itself is among those that are read.
* `Likeness.Contexts.evaluate_related` is the whole.  Comparisons are left to whoever uses it, since
  equality sees more of a value than anything else does: `Likeness.Compares` is what it asks of
  them.
-/

set_option autoImplicit false

namespace RecordRules

/-! ## Parts of values -/

namespace Value

/-- The entries of a map. -/
def entries? : Value → Option (List (String × Value))
  | .map entries => some entries
  | _ => none

/-- The value under a name, if it is a map that has the name. -/
def at? (v : Value) (name : String) : Option Value :=
  v.entries?.bind fun entries => Fields.get? entries name

end Value

theorem rel_of_eq {α : Type} {r : α → α → Prop} (hr : ∀ a, r a a) {x y : Option α} (h : x = y) :
    Option.Rel r x y := by
  subst h
  cases x with
  | none => exact .none
  | some a => exact .some (hr a)

namespace Expression

theorem walk?_cons (v : Value) (segment : List Char) (path : List (List Char)) :
    walk? v (segment :: path) = (v.at? (String.ofList segment)).bind fun w => walk? w path := by
  cases v with
  | map entries =>
    rw [walk?, Value.at?, Value.entries?, Option.bind_some]
    cases Fields.get? entries (String.ofList segment) <;> rfl
  | _ => rfl

/-! ## Comparisons -/

/-- The sides of a comparison stand in the text. -/
theorem findComparison?_isInfix {text : List Char} {op : Comparison}
    {left right : List Char}
    (h : findComparison? text = some (op, left, right)) : left <:+: text ∧ right <:+: text := by
  obtain ⟨other, -, hcut⟩ := List.exists_of_findSome?_eq_some h
  obtain ⟨sides, hcut, hsides⟩ := Option.map_eq_some_iff.1 hcut
  cases hsides
  exact Text.cut?_isInfix hcut

/-- A part of a text without comparisons has none, either. -/
theorem findComparison?_eq_none_of_isInfix {text part : List Char} (hpart : part <:+: text)
    (hnone : findComparison? text = none) : findComparison? part = none := by
  refine List.findSome?_eq_none_iff.2 fun op hop => ?_
  have hop := List.findSome?_eq_none_iff.1 hnone op hop
  rw [Option.map_eq_none_iff] at hop ⊢
  exact Text.cut?_eq_none_of_isInfix hop hpart

/-! ## Outcomes -/

namespace Outcome

variable {α β : Type} {e : Error → Error → Prop} {r : α → α → Prop} {q : β → β → Prop}

/-- Two outcomes are both values that are related, or both failures with errors that are. -/
inductive Related (e : Error → Error → Prop) (r : α → α → Prop) : Outcome α → Outcome α → Prop
  | ok {a b : α} (h : r a b) : Related e r (.ok a) (.ok b)
  | error {x y : Error} (h : e x y) : Related e r (.error x) (.error y)

theorem Related.of_eq (he : ∀ a, e a a) (hr : ∀ a, r a a) {x y : Outcome α} (h : x = y) :
    Related e r x y := by
  subst h
  cases x with
  | ok a => exact .ok (hr a)
  | error a => exact .error (he a)

theorem Related.bind {x y : Outcome α} {f g : α → Outcome β} (h : Related e r x y)
    (hstep : ∀ a b, r a b → Related e q (f a) (g b)) : Related e q (x >>= f) (y >>= g) := by
  cases h with
  | ok h => exact hstep _ _ h
  | error h => exact .error h

theorem Related.map {x y : Outcome α} {f g : α → β} (h : Related e r x y)
    (hstep : ∀ a b, r a b → q (f a) (g b)) : Related e q (f <$> x) (g <$> y) := by
  cases h with
  | ok h => exact .ok (hstep _ _ h)
  | error h => exact .error h

theorem Related.mapError {x y : Outcome α} (h : Related e r x y) {f : Error → Error}
    (hf : ∀ a b, e a b → e (f a) (f b)) : Related e r (x.mapError f) (y.mapError f) := by
  cases h with
  | ok h => exact .ok h
  | error h => exact .error (hf _ _ h)

theorem Related.foldlM {f g : β → α → Outcome β} {items : List α}
    (h : ∀ b, ∀ a ∈ items, Related e Eq (f b a) (g b a)) (b : β) :
    Related e Eq (items.foldlM f b) (items.foldlM g b) := by
  induction items generalizing b with
  | nil => exact .ok rfl
  | cons a rest ih =>
    rw [List.foldlM_cons, List.foldlM_cons]
    exact (h b a List.mem_cons_self).bind fun b c hbc => hbc ▸
      ih (fun b a ha => h b a (List.mem_cons_of_mem _ ha)) b

end Outcome

open Outcome (Related)

/-! ## Likenesses -/

/-- How two runs of an expression are alike, as far as they read certain texts: relations between
their values, their lists and their errors that everything but equality keeps. -/
structure Likeness where
  /-- A text is looked up as a name, if at all. -/
  Reads : List Char → Prop
  Values : Value → Value → Prop
  Lists : List Value → List Value → Prop
  Errors : Error → Error → Prop
  reads_part : ∀ {text part : List Char}, Reads text → part <:+: text → Reads part
  values_refl : ∀ v, Values v v
  errors_refl : ∀ e, Errors e e
  at? : ∀ {v w : Value} {name : List Char}, Values v w → Reads name →
    Option.Rel Values (v.at? (String.ofList name)) (w.at? (String.ofList name))
  isTrue : ∀ {v w : Value}, Values v w → v.isTrue = w.isTrue
  toNumber : ∀ {v w : Value}, Values v w → v.toNumber = w.toNumber
  kindOf : ∀ {v w : Value}, Values v w → Expression.kindOf v = Expression.kindOf w
  items? : ∀ {v w : Value}, Values v w → Option.Rel Lists v.items? w.items?
  column : ∀ {xs ys : List Value} (field : String), Lists xs ys →
    Lists (Expression.column field xs) (Expression.column field ys)
  total : ∀ {xs ys : List Value}, Lists xs ys → Expression.total xs = Expression.total ys
  notAList : ∀ {v w : Value} (source : List Char) (kind : Kind), Values v w →
    Related Errors (@Eq Float) (Expression.notAList source kind v)
      (Expression.notAList source kind w)
  within : ∀ {e e' : Error} (text : List Char), Errors e e' →
    Errors (e.within text) (e'.within text)

namespace Likeness

variable {L : Likeness} {c d : Context} {text : List Char}

/-- Two contexts have related values under every name that is read. -/
def Contexts (L : Likeness) (c d : Context) : Prop :=
  ∀ name, L.Reads name →
    Option.Rel L.Values (c.get? (String.ofList name)) (d.get? (String.ofList name))

/-- If a text is a comparison, it comes out the same in both contexts. -/
def Compares (c d : Context) (text : List Char) : Prop :=
  ∀ op left right, findComparison? text = some (op, left, right) →
    ∀ v w v' w', simpleValue c (Text.trim left) = .ok v → simpleValue d (Text.trim left) = .ok w →
      simpleValue c (Text.trim right) = .ok v' → simpleValue d (Text.trim right) = .ok w' →
      op.decide v v' = op.decide w w'

theorem related_of_eq {α : Type} {x y : Outcome α} (h : x = y) : Related L.Errors Eq x y :=
  .of_eq L.errors_refl (fun _ => rfl) h

theorem reads_trim (h : L.Reads text) : L.Reads (Text.trim text) :=
  L.reads_part h (Text.trim_isInfix text)

/-! ## Simple values -/

theorem walk?_related {v w : Value} (h : L.Values v w) {path : List (List Char)}
    (hpath : ∀ segment ∈ path, L.Reads segment) :
    Option.Rel L.Values (walk? v path) (walk? w path) := by
  induction path generalizing v w with
  | nil => simpa only [walk?] using Option.Rel.some h
  | cons segment path ih =>
    rw [List.forall_mem_cons] at hpath
    rw [walk?_cons, walk?_cons]
    generalize v.at? _ = x, w.at? _ = y, L.at? h hpath.1 = hnext
    cases hnext with
    | none => exact .none
    | some h => exact ih h hpath.2

section Contexts

variable (h : L.Contexts c d)
include h

theorem Contexts.pathValue?_related (ht : L.Reads text) :
    Option.Rel L.Values (pathValue? c text) (pathValue? d text) := by
  have hpieces : ∀ piece ∈ Text.pieces ['.'] text, L.Reads piece :=
    fun piece hpiece => L.reads_part ht (Text.isInfix_of_mem_pieces hpiece)
  rw [pathValue?, pathValue?]
  split
  · rename_i head segment path hpath
    rw [hpath, List.forall_mem_cons] at hpieces
    generalize c.get? (String.ofList head) = x, d.get? (String.ofList head) = y,
      h head hpieces.1 = hname
    cases hname with
    | none => exact .none
    | some hvalue => exact walk?_related hvalue hpieces.2
  · exact .none

theorem Contexts.reference_related (ht : L.Reads text) :
    L.Values (reference c text) (reference d text) := by
  rw [reference, reference]
  have hname := h text ht
  have hpath := h.pathValue?_related ht
  generalize c.get? (String.ofList text) = x, d.get? (String.ofList text) = y at hname
  generalize pathValue? c text = p, pathValue? d text = q at hpath
  cases hname with
  | some hvalue => exact hvalue
  | none =>
    cases hpath with
    | some hvalue => exact hvalue
    | none => exact L.values_refl _

theorem Contexts.simpleValue_related (ht : L.Reads text) :
    Related L.Errors L.Values (simpleValue c text) (simpleValue d text) := by
  rw [simpleValue, simpleValue]
  refine (related_of_eq rfl).bind fun literal _ heq => heq ▸ ?_
  cases literal with
  | some value => exact .ok (L.values_refl value)
  | none => exact .ok (h.reference_related ht)

/-! ## Operations -/

theorem Contexts.operand_related (operation : Arithmetic) (source : List Char) (ht : L.Reads text) :
    Related L.Errors Eq (operand c operation source text) (operand d operation source text) := by
  rw [operand, operand]
  refine (h.simpleValue_related (reads_trim ht)).bind fun v w hvw => ?_
  rw [L.toNumber hvw]
  exact related_of_eq rfl

theorem Contexts.foldOperands_related (operation : Arithmetic) (source : List Char)
    (combine : Float → Float → Float) (start : Float) {parts : List (List Char)}
    (hparts : ∀ part ∈ parts, L.Reads part) :
    Related L.Errors Eq (foldOperands c operation source combine start parts)
      (foldOperands d operation source combine start parts) :=
  .foldlM (fun _ part hpart => (h.operand_related operation source (hparts part hpart)).bind
    fun _ _ heq => heq ▸ .ok rfl) start

theorem Contexts.difference_related (source : List Char) {left right : List Char}
    (hl : L.Reads left) (hr : L.Reads right) :
    Related L.Errors Eq (difference c source left right) (difference d source left right) :=
  (h.operand_related _ _ hl).bind fun _ _ hx => hx ▸
    (h.operand_related _ _ hr).bind fun _ _ hy => hy ▸ .ok rfl

theorem Contexts.quotient_related (source : List Char) {left right : List Char} (hl : L.Reads left)
    (hr : L.Reads right) :
    Related L.Errors Eq (quotient c source left right) (quotient d source left right) :=
  (h.operand_related _ _ hl).bind fun _ _ hx => hx ▸
    (h.operand_related _ _ hr).bind fun _ _ hy => hy ▸ related_of_eq rfl

/-! ## Sums -/

theorem Contexts.sumOf_related {argument : List Char} (ha : L.Reads argument) :
    Related L.Errors Eq (sumOf c argument) (sumOf d argument) := by
  rw [sumOf, sumOf]
  refine (h.simpleValue_related ha).bind fun v w hvw => ?_
  rw [L.kindOf hvw]
  refine (related_of_eq rfl).bind fun kind _ heq => heq ▸ ?_
  generalize v.items? = xs, w.items? = ys, L.items? hvw = hitems
  cases hitems with
  | some hitems => exact related_of_eq (L.total hitems)
  | none =>
    -- no list, so perhaps a list of maps and a field
    cases hcut : Text.cutLast? ['.'] argument with
    | none => exact L.notAList argument kind hvw
    | some sides =>
      have harray : L.Reads sides.1 := L.reads_part ha (Text.cutLast?_isInfix hcut).1
      refine (h.simpleValue_related (reads_trim harray)).bind fun v w hvw => ?_
      rw [L.kindOf hvw]
      refine (related_of_eq rfl).bind fun kind _ heq => heq ▸ ?_
      generalize v.items? = xs, w.items? = ys, L.items? hvw = hitems
      cases hitems with
      | some hitems => exact related_of_eq (L.total (L.column _ hitems))
      | none => exact L.notAList argument kind hvw

omit h in
theorem reads_sumArgument {argument : List Char} (ht : L.Reads text)
    (harg : sumArgument? text = some argument) : L.Reads argument := by
  obtain ⟨⟨name, rest⟩, hcut, harg⟩ := Option.bind_eq_some_iff.1 harg
  obtain ⟨⟨inner, after⟩, hcut', harg⟩ := Option.bind_eq_some_iff.1 harg
  have hinner : L.Reads inner :=
    L.reads_part (L.reads_part ht (Text.cut?_isInfix hcut).2) (Text.cutLast?_isInfix hcut').1
  dsimp only at harg
  split at harg
  · cases harg
    exact reads_trim hinner
  · cases harg

/-! ## Expressions -/

/-- What a text without comparisons and logical operators yields is a number, or the simple value
that the whole text is. -/
theorem Contexts.evaluateTerm_related {q : Value → Value → Prop} (hq : ∀ v, q v v)
    (ht : L.Reads text)
    (hwhole : Related L.Errors q (simpleValue c text) (simpleValue d text)) :
    Related L.Errors q (evaluateTerm c text) (evaluateTerm d text) := by
  have hfloat : ∀ {x y : Outcome Float}, Related L.Errors Eq x y →
      Related L.Errors q (Value.float <$> x) (Value.float <$> y) :=
    fun h => h.map fun _ _ heq => heq ▸ hq _
  have hpieces : ∀ sep, ∀ piece ∈ Text.pieces sep text, L.Reads piece :=
    fun sep piece hpiece => L.reads_part ht (Text.isInfix_of_mem_pieces hpiece)
  rw [evaluateTerm, evaluateTerm]
  split
  · exact hfloat (h.foldOperands_related _ _ _ _ (hpieces _))
  split
  · rename_i left right hcut
    split at hcut
    · cases hcut
    · obtain ⟨hl, hr⟩ := Text.cut?_isInfix hcut
      exact hfloat (h.difference_related _ (L.reads_part ht hl) (L.reads_part ht hr))
  split
  · exact hfloat (h.foldOperands_related _ _ _ _ (hpieces _))
  split
  · rename_i left right hcut
    obtain ⟨hl, hr⟩ := Text.cut?_isInfix hcut
    exact hfloat (h.quotient_related _ (L.reads_part ht hl) (L.reads_part ht hr))
  split
  · rename_i argument harg
    exact hfloat (h.sumOf_related (reads_sumArgument ht harg))
  · exact hwhole

omit h in
theorem allTrue_related {α : Type} {f g : α → Outcome Bool} {parts : List α}
    (h : ∀ a ∈ parts, Related L.Errors Eq (f a) (g a)) :
    Related L.Errors Eq (allTrue f parts) (allTrue g parts) := by
  induction parts with
  | nil => exact .ok rfl
  | cons a rest ih =>
    rw [List.forall_mem_cons] at h
    rw [allTrue, allTrue]
    refine h.1.bind fun b _ heq => heq ▸ ?_
    cases b
    · exact .ok rfl
    · exact ih h.2

omit h in
theorem anyTrue_related {α : Type} {f g : α → Outcome Bool} {parts : List α}
    (h : ∀ a ∈ parts, Related L.Errors Eq (f a) (g a)) :
    Related L.Errors Eq (anyTrue f parts) (anyTrue g parts) := by
  induction parts with
  | nil => exact .ok rfl
  | cons a rest ih =>
    rw [List.forall_mem_cons] at h
    rw [anyTrue, anyTrue]
    refine h.1.bind fun b _ heq => heq ▸ ?_
    cases b
    · exact ih h.2
    · exact .ok rfl

/-- **Evaluation at any depth yields what is related**, if it yields that for a text that is a
simple value as a whole. -/
theorem Contexts.evaluateWithin_related {q : Value → Value → Prop} (hq : ∀ v, q v v)
    (limits : Limits) (depth : Nat) (ht : L.Reads text) (hcompares : Compares c d text)
    (hwhole : Related L.Errors q (simpleValue c text) (simpleValue d text)) :
    Related L.Errors q (evaluateWithin limits c depth text)
      (evaluateWithin limits d depth text) := by
  have hbool : ∀ {q : Value → Value → Prop} {x y : Outcome Bool}, (∀ v, q v v) →
      Related L.Errors Eq x y → Related L.Errors q (Value.bool <$> x) (Value.bool <$> y) :=
    fun hq h => h.map fun _ _ heq => heq ▸ hq _
  induction depth generalizing text q with
  | zero => exact .error (L.errors_refl _)
  | succ depth ih =>
    rw [evaluateWithin, evaluateWithin]
    split
    · rename_i op left right hfind
      obtain ⟨hl, hr⟩ := findComparison?_isInfix hfind
      have hleft := h.simpleValue_related (reads_trim (L.reads_part ht hl))
      have hright := h.simpleValue_related (reads_trim (L.reads_part ht hr))
      have hsame := hcompares op left right hfind
      generalize simpleValue c (Text.trim left) = x, simpleValue d (Text.trim left) = y
        at hleft hsame
      generalize simpleValue c (Text.trim right) = x', simpleValue d (Text.trim right) = y'
        at hright hsame
      cases hleft with
      | error he => exact .error he
      | ok _ =>
        cases hright with
        | error he => exact .error he
        | ok _ =>
          rw [ok_bind, ok_bind, ok_bind, ok_bind, hsame _ _ _ _ rfl rfl rfl rfl]
          exact hbool hq (related_of_eq rfl)
    · rename_i hnone
      -- no comparison here, so none in the pieces, which are evaluated one level below
      have hpiece : ∀ sep, ∀ piece ∈ Text.pieces sep text, Related L.Errors Eq
          (Value.isTrue <$> evaluateWithin limits c depth (Text.trim piece))
          (Value.isTrue <$> evaluateWithin limits d depth (Text.trim piece)) := by
        intro sep piece hmem
        have hin : Text.trim piece <:+: text :=
          (Text.trim_isInfix piece).trans (Text.isInfix_of_mem_pieces hmem)
        have hreads : L.Reads (Text.trim piece) := L.reads_part ht hin
        have hfree := findComparison?_eq_none_of_isInfix hin hnone
        refine (ih L.values_refl hreads ?_ (h.simpleValue_related hreads)).map
          fun _ _ hvw => L.isTrue hvw
        exact fun op left right hfind => nomatch hfree.symm.trans hfind
      split
      · exact hbool hq (allTrue_related (hpiece _))
      split
      · exact hbool hq (anyTrue_related (hpiece _))
      · exact h.evaluateTerm_related hq ht hwhole

/-- **Expressions yield what is related in contexts that are**, if their comparisons come out the
same and they yield it as names. -/
theorem Contexts.evaluate_related {q : Value → Value → Prop} (hq : ∀ v, q v v) (limits : Limits)
    {expression : String} (ht : L.Reads expression.toList)
    (hcompares : Compares c d (Text.trim expression.toList))
    (hname : q (reference c (Text.trim expression.toList))
      (reference d (Text.trim expression.toList))) :
    Related L.Errors q (evaluate limits c expression) (evaluate limits d expression) := by
  rw [evaluate, evaluate]
  generalize Text.trim expression.toList = text, reads_trim ht = ht at hcompares hname
  split
  · exact .error (L.errors_refl _)
  split
  · exact .error (L.errors_refl _)
  refine Related.mapError ?_ fun _ _ he => L.within _ he
  rw [evaluateTrimmed, evaluateTrimmed]
  have hsimple : Related L.Errors q (simpleValue c text) (simpleValue d text) := by
    rw [simpleValue, simpleValue]
    refine (related_of_eq rfl).bind fun literal _ heq => heq ▸ ?_
    cases literal with
    | some value => exact .ok (hq value)
    | none => exact .ok hname
  have hwithin := h.evaluateWithin_related hq limits limits.maxDepth.toNat ht hcompares hsimple
  refine (related_of_eq rfl).bind fun literal _ heq => heq ▸ ?_
  cases literal with
  | some value => exact .ok (hq value)
  | none =>
    rw [reference, reference] at hname
    dsimp only
    generalize c.get? (String.ofList text) = x, d.get? (String.ofList text) = y, h text ht = hfound
      at hname
    cases hfound with
    | some _ => exact .ok hname
    | none => exact hwithin

end Contexts
end Likeness
end Expression
end RecordRules
