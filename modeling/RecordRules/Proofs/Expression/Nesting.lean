import RecordRules.Failure
import RecordRules.Proofs.Expression.Likeness
import RecordRules.Proofs.Store.Statements

/-!
# How deep evaluation nests

Only the logical operators make an evaluation call itself: on the pieces between `&&`, or between
`||` if there is no `&&`.  A piece does not contain the operator that it has been cut at, not even
when operators run into each other as in `&&&`, and whatever the text did not contain its pieces do
not contain either.  So there are three levels at most: a conjunction, disjunctions in it, and their
operands.

* `connective?` is the logical operator at which a text is cut, and `evaluateWithin_succ` says what
  evaluation does with the pieces.
* `rank` is the number of levels that a text can need; it falls from a text to its pieces
  (`rank_trim_lt`).
* `calls` lists the calls that an evaluation makes of itself, those that a certain result makes
  superfluous left out; `refused_call` says that an evaluation is refused only in a call beyond its
  limit.
* `evaluateWithin_stable` and `evaluateWithin_mono`: as many levels as the rank suffice, and more
  levels never change a value.
* `evaluate_three_levels` is the whole.
-/

set_option autoImplicit false

namespace RecordRules
namespace Expression

/-! ## Logical operators -/

/-- The logical operators. -/
inductive Connective where
  | conjunction
  | disjunction
deriving DecidableEq, Repr

namespace Connective

/-- The text of a logical operator. -/
def symbol : Connective → List Char
  | .conjunction => ['&', '&']
  | .disjunction => ['|', '|']

/-- The outcome of an operand that makes the result certain, and is the result. -/
def certain : Connective → Bool
  | .conjunction => false
  | .disjunction => true

variable {α : Type}

/-- The result for some operands, each of which is tested in turn. -/
def join (c : Connective) (test : α → Outcome Bool) (items : List α) : Outcome Bool :=
  match c with
  | .conjunction => allTrue test items
  | .disjunction => anyTrue test items

/-- The operands that are tested: up to the first that makes the result certain, or fails. -/
def tested (c : Connective) (test : α → Outcome Bool) : List α → List α
  | [] => []
  | a :: rest =>
    a :: match test a with
      | .ok b => if b = c.certain then [] else tested c test rest
      | .error _ => []

variable (c : Connective) {test other : α → Outcome Bool} {items : List α}

theorem join_cons (a : α) (rest : List α) :
    c.join test (a :: rest) =
      test a >>= fun b => if b = c.certain then .ok b else c.join test rest := by
  cases c with
  | conjunction =>
    rw [join, allTrue]
    refine bind_congr fun b => ?_
    cases b <;> rfl
  | disjunction =>
    rw [join, anyTrue]
    refine bind_congr fun b => ?_
    cases b <;> rfl

theorem symbol_ne_nil : c.symbol ≠ [] := by
  cases c <;> exact List.cons_ne_nil _ _

theorem join_congr (h : ∀ a ∈ items, test a = other a) :
    c.join test items = c.join other items := by
  induction items with
  | nil => cases c <;> rfl
  | cons a rest ih =>
    rw [List.forall_mem_cons] at h
    rw [join_cons, join_cons, h.1, ih h.2]

/-- Whatever the operands that have failed might have yielded, a result that was found without them
stands. -/
theorem join_mono (h : ∀ a ∈ items, ∀ b, test a = .ok b → other a = .ok b) {result : Bool}
    (hresult : c.join test items = .ok result) : c.join other items = .ok result := by
  induction items with
  | nil => cases c <;> exact hresult
  | cons a rest ih =>
    rw [List.forall_mem_cons] at h
    rw [join_cons] at hresult ⊢
    obtain ⟨b, hb, hresult⟩ := bind_eq_ok_iff.1 hresult
    rw [h.1 b hb, ok_bind]
    split
    · rwa [if_pos ‹_›] at hresult
    · rw [if_neg ‹_›] at hresult
      exact ih h.2 hresult

/-- A result fails with an operand that has been tested. -/
theorem exists_tested_of_error {e : Error} (h : c.join test items = .error e) :
    ∃ a ∈ c.tested test items, test a = .error e := by
  induction items with
  | nil => cases c <;> cases h
  | cons a rest ih =>
    rw [join_cons] at h
    rw [tested]
    cases htest : test a with
    | error e' =>
      rw [htest] at h
      cases h
      exact ⟨a, List.mem_cons_self, htest⟩
    | ok b =>
      rw [htest, ok_bind] at h
      dsimp only
      split
      · rw [if_pos ‹_›] at h
        cases h
      · rw [if_neg ‹_›] at h
        obtain ⟨x, hx, hfails⟩ := ih h
        exact ⟨x, List.mem_cons_of_mem _ hx, hfails⟩

theorem tested_subset : c.tested test items ⊆ items := by
  induction items with
  | nil => exact List.Subset.refl _
  | cons a rest ih =>
    rw [tested]
    refine List.cons_subset_cons a ?_
    split
    · split
      · exact List.nil_subset _
      · exact ih
    · exact List.nil_subset _

end Connective

/-- The logical operator at which a text is cut, if it is. -/
def connective? (text : List Char) : Option Connective :=
  if (findComparison? text).isSome then none
  else if Text.occurs Connective.conjunction.symbol text then some .conjunction
  else if Text.occurs Connective.disjunction.symbol text then some .disjunction
  else none

/-- The value of a text that is not cut at a logical operator: a comparison or a term. -/
def evaluateFlat (context : Context) (text : List Char) : Outcome Value :=
  match findComparison? text with
  | some (op, left, right) => do
    let x ← simpleValue context (Text.trim left)
    let y ← simpleValue context (Text.trim right)
    Value.bool <$> ofValueError (op.decide x y)
  | none => evaluateTerm context text

section Levels

variable {limits limits' : Limits} {context : Context} {text part : List Char} {c : Connective}

/-- Whether an operand is true, with some levels left for it. -/
def operandIsTrue (limits : Limits) (context : Context) (left : Nat) (part : List Char) :
    Outcome Bool :=
  Value.isTrue <$> evaluateWithin limits context left (Text.trim part)

/-- **One level of evaluation**: it calls itself on the pieces of the text, or not at all. -/
theorem evaluateWithin_succ (limits : Limits) (context : Context) (left : Nat) (text : List Char) :
    evaluateWithin limits context (left + 1) text =
      match connective? text with
      | some c =>
        Value.bool <$> c.join (operandIsTrue limits context left) (Text.pieces c.symbol text)
      | none => evaluateFlat context text := by
  rw [evaluateWithin, connective?, evaluateFlat]
  cases findComparison? text with
  | some sides => rfl
  | none =>
    rw [Option.isSome_none, if_neg Bool.false_ne_true]
    change (if Text.occurs Connective.conjunction.symbol text then _
      else if Text.occurs Connective.disjunction.symbol text then _ else _) = _
    by_cases hand : Text.occurs Connective.conjunction.symbol text = true
    · rw [if_pos hand, if_pos hand]
      rfl
    · rw [if_neg hand, if_neg hand]
      by_cases hor : Text.occurs Connective.disjunction.symbol text = true
      · rw [if_pos hor, if_pos hor]
        rfl
      · rw [if_neg hor, if_neg hor]

/-- What is known of a text that is cut at a logical operator. -/
theorem connective?_eq_some_iff :
    connective? text = some c ↔ findComparison? text = none ∧ c.symbol <:+: text ∧
      (c = .disjunction → ¬ Connective.conjunction.symbol <:+: text) := by
  rw [connective?]
  cases findComparison? text with
  | some sides => simp
  | none =>
    simp only [Text.occurs_iff, Option.isSome_none, Bool.false_eq_true, if_false, true_and]
    by_cases hand : Connective.conjunction.symbol <:+: text
    · rw [if_pos hand]
      cases c <;> simp [hand]
    · rw [if_neg hand]
      by_cases hor : Connective.disjunction.symbol <:+: text
      · rw [if_pos hor]
        cases c <;> simp [hand, hor]
      · rw [if_neg hor]
        cases c <;> simp [hand, hor]

/-! ## Ranks -/

/-- How many levels the evaluation of a text can need, the text itself included. -/
def rank (text : List Char) : Nat :=
  match connective? text with
  | none => 1
  | some .disjunction => 2
  | some .conjunction => 3

theorem rank_pos (text : List Char) : 0 < rank text := by
  rw [rank]
  split <;> decide

theorem rank_le_three (text : List Char) : rank text ≤ 3 := by
  rw [rank]
  split <;> decide

/-- **A piece needs fewer levels than the text that it is cut out of.** -/
theorem rank_trim_lt (h : connective? text = some c) (hpart : part ∈ Text.pieces c.symbol text) :
    rank (Text.trim part) < rank text := by
  obtain ⟨hnone, -, hfirst⟩ := connective?_eq_some_iff.1 h
  have hin : Text.trim part <:+: text :=
    (Text.trim_isInfix part).trans (Text.isInfix_of_mem_pieces hpart)
  have hfree : ¬ c.symbol <:+: Text.trim part := fun hinside =>
    Text.not_isInfix_of_mem_pieces c.symbol_ne_nil hpart (hinside.trans (Text.trim_isInfix part))
  cases hpart : connective? (Text.trim part) with
  | none =>
    rw [rank, rank, hpart, h]
    cases c <;> decide
  | some d =>
    obtain ⟨-, hinside, -⟩ := connective?_eq_some_iff.1 hpart
    rw [rank, rank, hpart, h]
    cases c with
    | conjunction =>
      cases d with
      | conjunction => exact absurd hinside hfree
      | disjunction => decide
    | disjunction =>
      cases d with
      | conjunction => exact absurd (hinside.trans hin) (hfirst rfl)
      | disjunction => exact absurd hinside hfree

/-! ## Calls -/

/-- A call of the evaluation: how deep it is, and the text that it is about. -/
structure Call where
  depth : Nat
  text : List Char
deriving DecidableEq, Repr

/-- The calls that the evaluation of a text at a depth makes of itself, itself included, with some
levels left.  The one for which no level is left is refused. -/
def calls (limits : Limits) (context : Context) : Nat → Nat → List Char → List Call
  | 0, depth, text => [⟨depth, text⟩]
  | left + 1, depth, text =>
    ⟨depth, text⟩ ::
      match connective? text with
      | none => []
      | some c =>
        (c.tested (operandIsTrue limits context left) (Text.pieces c.symbol text)).flatMap
          fun part => calls limits context left (depth + 1) (Text.trim part)

/-- As calls get deeper, their texts need fewer levels. -/
theorem depth_add_rank_le {left depth : Nat} {call : Call}
    (h : call ∈ calls limits context left depth text) :
    call.depth + rank call.text ≤ depth + rank text := by
  induction left generalizing depth text with
  | zero =>
    rw [calls] at h
    cases List.mem_singleton.1 h
    exact Nat.le_refl _
  | succ left ih =>
    rw [calls] at h
    rcases List.mem_cons.1 h with rfl | h
    · exact Nat.le_refl _
    · cases hcut : connective? text with
      | none =>
        rw [hcut] at h
        cases h
      | some c =>
        rw [hcut] at h
        obtain ⟨part, hpart, hcall⟩ := List.mem_flatMap.1 h
        have hdepth := ih hcall
        have hrank := rank_trim_lt hcut (c.tested_subset hpart)
        omega

/-- **No call is deeper than three levels.** -/
theorem depth_le_three {left : Nat} {call : Call} (h : call ∈ calls limits context left 1 text) :
    call.depth ≤ 3 := by
  have hdepth := depth_add_rank_le h
  have hrank := rank_le_three text
  have hpos := rank_pos call.text
  omega

end Levels

/-! ## Failures that are no refusals -/

namespace Outcome

variable {α β : Type} {x : Outcome α}

/-- If there is a failure, then one of evaluation, and not because the expression is refused. -/
def Accepted (x : Outcome α) : Prop := ∀ e, x = .error e → e.cause.isRefusal = false

theorem accepted_ok (a : α) : Accepted (.ok a : Outcome α) := nofun

theorem accepted_error {e : Error} (h : e.cause.isRefusal = false) :
    Accepted (.error e : Outcome α) := by
  rintro _ ⟨⟩
  exact h

theorem Accepted.bind (h : Accepted x) {f : α → Outcome β} (hf : ∀ a, Accepted (f a)) :
    Accepted (x >>= f) := by
  cases x with
  | ok a => exact hf a
  | error e => exact accepted_error (h e rfl)

theorem Accepted.map (h : Accepted x) (f : α → β) : Accepted (f <$> x) := by
  cases x with
  | ok a => exact accepted_ok (f a)
  | error e => exact accepted_error (h e rfl)

theorem accepted_foldlM {f : β → α → Outcome β} (h : ∀ b a, Accepted (f b a)) (start : β)
    (items : List α) : Accepted (items.foldlM f start) := by
  induction items generalizing start with
  | nil => exact accepted_ok start
  | cons a rest ih =>
    rw [List.foldlM_cons]
    exact (h start a).bind ih

theorem accepted_ofValueError (x : Except ValueError α) : Accepted (ofValueError x) := by
  cases x with
  | ok a => exact accepted_ok a
  | error e => exact accepted_error rfl

end Outcome

section Accepted

open Outcome

variable (context : Context) (source text left right : List Char)

theorem simpleValue_accepted : Accepted (simpleValue context text) :=
  (accepted_ofValueError _).bind fun literal => by cases literal <;> exact accepted_ok _

theorem operand_accepted (operation : Arithmetic) :
    Accepted (operand context operation source text) :=
  (simpleValue_accepted context _).bind fun _ => (accepted_ofValueError _).bind fun number => by
    cases number with
    | none => exact accepted_error rfl
    | some x => exact accepted_ok x

theorem foldOperands_accepted (operation : Arithmetic) (combine : Float → Float → Float)
    (start : Float) (parts : List (List Char)) :
    Accepted (foldOperands context operation source combine start parts) :=
  accepted_foldlM (fun _ part => (operand_accepted context source part operation).bind
    fun _ => accepted_ok _) start parts

theorem quotient_accepted : Accepted (quotient context source left right) := by
  refine (operand_accepted context source left .divide).bind fun x =>
    (operand_accepted context source right .divide).bind fun y => ?_
  split
  · exact accepted_error rfl
  · exact accepted_ok _

theorem difference_accepted : Accepted (difference context source left right) :=
  (operand_accepted context source left .subtract).bind fun _ =>
    (operand_accepted context source right .subtract).bind fun _ => accepted_ok _

theorem kindOf_accepted (value : Value) : Accepted (kindOf value) := by
  rw [kindOf]
  split
  · exact accepted_ok _
  · exact accepted_error rfl

theorem total_accepted (values : List Value) : Accepted (total values) :=
  accepted_foldlM (fun _ _ => (accepted_ofValueError _).bind fun number => by
    cases number <;> exact accepted_ok _) _ values

theorem notAList_accepted {α : Type} (kind : Kind) (value : Value) :
    Accepted (notAList source kind value : Outcome α) := by
  rw [notAList]
  split <;> exact accepted_error rfl

theorem sumOf_accepted (argument : List Char) : Accepted (sumOf context argument) := by
  refine (simpleValue_accepted context argument).bind fun value =>
    (kindOf_accepted value).bind fun kind => ?_
  split
  · exact total_accepted _
  · split
    · exact notAList_accepted _ _ _
    · refine (simpleValue_accepted context _).bind fun value =>
        (kindOf_accepted value).bind fun kind => ?_
      split
      · exact total_accepted _
      · exact notAList_accepted _ _ _

theorem evaluateTerm_accepted : Accepted (evaluateTerm context text) := by
  rw [evaluateTerm]
  split
  · exact (foldOperands_accepted context text _ _ _ _).map _
  split
  · exact (difference_accepted context text _ _).map _
  split
  · exact (foldOperands_accepted context text _ _ _ _).map _
  split
  · exact (quotient_accepted context text _ _).map _
  split
  · exact (sumOf_accepted context _).map _
  · exact simpleValue_accepted context text

theorem evaluateFlat_accepted : Accepted (evaluateFlat context text) := by
  rw [evaluateFlat]
  split
  · exact (simpleValue_accepted context _).bind fun _ => (simpleValue_accepted context _).bind
      fun _ => (accepted_ofValueError _).map _
  · exact evaluateTerm_accepted context text

end Accepted

/-! ## Enough levels -/

section Levels

open Outcome (Accepted accepted_error accepted_ok accepted_ofValueError)

variable {limits limits' : Limits} {context : Context} {text : List Char}

/-- An evaluation is refused only in a call for which no level is left. -/
theorem refused_call {left : Nat} {e : Error}
    (h : evaluateWithin limits context left text = .error e)
    (hrefused : e.cause.isRefusal = true) (depth : Nat) :
    ∃ call ∈ calls limits context left depth text, call.depth = depth + left := by
  induction left generalizing depth text with
  | zero => exact ⟨⟨depth, text⟩, List.mem_singleton.2 rfl, rfl⟩
  | succ left ih =>
    rw [evaluateWithin_succ] at h
    rw [calls]
    cases hcut : connective? text with
    | none =>
      rw [hcut] at h
      rw [evaluateFlat_accepted context text e h] at hrefused
      cases hrefused
    | some c =>
      rw [hcut] at h
      obtain ⟨part, hpart, hfails⟩ := c.exists_tested_of_error (map_eq_error_iff.1 h)
      obtain ⟨call, hcall, hdepth⟩ := ih (map_eq_error_iff.1 hfails) (depth + 1)
      refine ⟨call, List.mem_cons_of_mem _ (List.mem_flatMap.2 ⟨part, hpart, hcall⟩), ?_⟩
      omega

/-- **As many levels as the rank suffice**, whatever the limit is. -/
theorem evaluateWithin_stable {left left' : Nat} (h : rank text ≤ left) (h' : rank text ≤ left') :
    evaluateWithin limits context left text = evaluateWithin limits' context left' text := by
  have hpos := rank_pos text
  induction left generalizing left' text with
  | zero => omega
  | succ left ih =>
    cases left' with
    | zero => omega
    | succ left' =>
      rw [evaluateWithin_succ, evaluateWithin_succ]
      cases hcut : connective? text with
      | none => rfl
      | some c =>
        refine congrArg (Value.bool <$> ·) (c.join_congr fun part hpart => ?_)
        have hrank := rank_trim_lt hcut hpart
        exact congrArg (Value.isTrue <$> ·) (ih (by omega) (by omega) (rank_pos _))

/-- **More levels do not change a value.** -/
theorem evaluateWithin_mono {left left' : Nat} (hle : left ≤ left') {v : Value}
    (h : evaluateWithin limits context left text = .ok v) :
    evaluateWithin limits' context left' text = .ok v := by
  induction left generalizing left' text v with
  | zero => cases h
  | succ left ih =>
    obtain ⟨more, rfl⟩ := Nat.exists_eq_add_of_le hle
    rw [Nat.add_right_comm, evaluateWithin_succ]
    rw [evaluateWithin_succ] at h
    cases hcut : connective? text with
    | none =>
      rw [hcut] at h
      exact h
    | some c =>
      rw [hcut] at h
      obtain ⟨result, hresult, hv⟩ := map_eq_ok_iff.1 h
      refine map_eq_ok_iff.2 ⟨result, c.join_mono (fun part _ b hb => ?_) hresult, hv⟩
      obtain ⟨w, hw, hb⟩ := map_eq_ok_iff.1 hb
      exact map_eq_ok_iff.2 ⟨w, ih (Nat.le_add_right left more) hw, hb⟩

/-- With three levels evaluation is not refused. -/
theorem evaluateWithin_accepted {left : Nat} (h : 3 ≤ left) :
    Accepted (evaluateWithin limits context left text) := by
  intro e he
  by_contra hrefused
  obtain ⟨call, hcall, hdepth⟩ := refused_call he ((Bool.not_eq_false _).mp hrefused) 1
  have hthree := depth_le_three hcall
  omega

/-! ## Whole expressions -/

theorem evaluateTrimmed_accepted (h : 3 ≤ limits.maxDepth) :
    Accepted (evaluateTrimmed limits context text) := by
  refine (accepted_ofValueError _).bind fun literal => ?_
  cases literal with
  | some value => exact accepted_ok value
  | none =>
    dsimp only
    split
    · exact accepted_ok _
    · exact evaluateWithin_accepted (by omega)

theorem evaluateTrimmed_stable (h : 3 ≤ limits.maxDepth) (h' : 3 ≤ limits'.maxDepth) :
    evaluateTrimmed limits context text = evaluateTrimmed limits' context text := by
  have hrank := rank_le_three text
  have hwithin : evaluateWithin limits context limits.maxDepth.toNat text =
      evaluateWithin limits' context limits'.maxDepth.toNat text :=
    evaluateWithin_stable (by omega) (by omega)
  rw [evaluateTrimmed, evaluateTrimmed, hwithin]

theorem evaluateTrimmed_mono (h : limits.maxDepth ≤ limits'.maxDepth) {v : Value}
    (hv : evaluateTrimmed limits context text = .ok v) :
    evaluateTrimmed limits' context text = .ok v := by
  obtain ⟨literal, hliteral, hv⟩ := bind_eq_ok_iff.1 hv
  refine bind_eq_ok_iff.2 ⟨literal, hliteral, ?_⟩
  cases literal with
  | some value => exact hv
  | none =>
    dsimp only at hv ⊢
    split
    · rename_i hname
      rwa [hname] at hv
    · rename_i hname
      rw [hname] at hv
      exact evaluateWithin_mono (Int.toNat_le_toNat h) hv

variable {expression : String}

/-- An expression is refused before it is evaluated, or not evaluated at all. -/
def Unacceptable (limits : Limits) (expression : String) : Prop :=
  Text.allBlank expression = true ∨ limits.maxLength < expression.toList.length

theorem evaluate_of_acceptable (h : ¬ Unacceptable limits expression) :
    evaluate limits context expression =
      (evaluateTrimmed limits context (Text.trim expression.toList)).mapError
        (Error.within (Text.trim expression.toList)) := by
  rw [Unacceptable, not_or] at h
  rw [evaluate, if_neg (mt Text.trim_nil_iff.1 h.1), if_neg h.2]

theorem evaluate_of_unacceptable (context : Context) (h : Unacceptable limits expression) :
    ∃ e, evaluate limits context expression = .error e ∧ e.cause.isRefusal = true := by
  rw [evaluate]
  by_cases hblank : Text.trim expression.toList = []
  · rw [if_pos hblank]
    exact ⟨_, rfl, rfl⟩
  · rw [if_neg hblank, if_pos (h.resolve_left (mt Text.trim_nil_iff.2 hblank))]
    exact ⟨_, rfl, rfl⟩

theorem within_cause (text : List Char) (e : Error) : (e.within text).cause = e.cause := by
  rw [Error.within]
  split <;> rfl

theorem evaluate_accepted (hdepth : 3 ≤ limits.maxDepth) (h : ¬ Unacceptable limits expression) :
    Accepted (evaluate limits context expression) := by
  intro e he
  rw [evaluate_of_acceptable h] at he
  cases hvalue : evaluateTrimmed limits context (Text.trim expression.toList) with
  | ok v =>
    rw [hvalue] at he
    cases he
  | error e' =>
    rw [hvalue] at he
    cases he
    rw [within_cause]
    exact evaluateTrimmed_accepted hdepth e' hvalue

theorem Error.toFault_kind (e : Error) :
    e.toFault.kind = if e.cause.isRefusal then .invalidExpression else .evaluation :=
  Fault.of_kind _ _ _

/-- **Three levels suffice, and limits only refuse.**  For every expression and context:

* no call of the evaluation is deeper than three levels, whatever the limits are;
* limits that leave three levels and allow the same length give the same value or the same error;
* with three levels an expression is refused exactly if it is blank or too long, and every other
  failure is one of evaluation;
* an expression that has a value has the same value under all wider limits. -/
theorem evaluate_three_levels (expression : String) (context : Context) :
    (∀ limits : Limits, ∀ call ∈ calls limits context limits.maxDepth.toNat 1
        (Text.trim expression.toList), call.depth ≤ 3) ∧
      (∀ limits limits' : Limits, 3 ≤ limits.maxDepth → 3 ≤ limits'.maxDepth →
        limits.maxLength = limits'.maxLength →
        evaluate limits context expression = evaluate limits' context expression) ∧
      (∀ limits : Limits, 3 ≤ limits.maxDepth →
        ((∃ e, evaluate limits context expression = .error e ∧
            e.toFault.kind = .invalidExpression) ↔
          Text.allBlank expression = true ∨ limits.maxLength < expression.toList.length) ∧
        ∀ e, evaluate limits context expression = .error e →
          e.toFault.kind = .invalidExpression ∨ e.toFault.kind = .evaluation) ∧
      ∀ (limits limits' : Limits) (v : Value), limits.maxLength ≤ limits'.maxLength →
        limits.maxDepth ≤ limits'.maxDepth → evaluate limits context expression = .ok v →
        evaluate limits' context expression = .ok v := by
  refine ⟨fun limits call hcall => depth_le_three hcall,
    fun limits limits' hdepth hdepth' hlength => ?_,
    fun limits hdepth => ⟨⟨?_, fun h => ?_⟩, fun e he => ?_⟩,
    fun limits limits' v hlength hdepth hv => ?_⟩
  · rw [evaluate, evaluate, hlength, evaluateTrimmed_stable hdepth hdepth']
  · rintro ⟨e, he, hkind⟩
    by_contra h
    rw [Error.toFault_kind, evaluate_accepted hdepth h e he] at hkind
    cases hkind
  · obtain ⟨e, he, hrefused⟩ := evaluate_of_unacceptable context h
    exact ⟨e, he, by rw [Error.toFault_kind, hrefused, if_pos rfl]⟩
  · rw [Error.toFault_kind]
    cases e.cause.isRefusal with
    | true => exact Or.inl rfl
    | false => exact Or.inr rfl
  · have h : ¬ Unacceptable limits expression := fun h => by
      obtain ⟨e, he, -⟩ := evaluate_of_unacceptable context h
      rw [hv] at he
      cases he
    have h' : ¬ Unacceptable limits' expression := fun h' => h (h'.imp_right fun hlong => by omega)
    rw [evaluate_of_acceptable h, mapError_eq_ok_iff] at hv
    rw [evaluate_of_acceptable h', mapError_eq_ok_iff]
    exact evaluateTrimmed_mono hdepth hv

/-- A context in which `b` and `c` are true. -/
def twoOfThree : Context := [("a", .bool false), ("b", .bool true), ("c", .bool true)]

/-- In `a || b && c` there are calls on all three levels, and the value with three levels is the one
with any number of them; a longer text is refused where the length is limited. -/
theorem evaluate_three_levels_nested :
    (calls { maxDepth := 3 } twoOfThree 3 1 "a || b && c".toList).map Call.depth =
        [1, 2, 3, 3, 2] ∧
      (∀ call ∈ calls { maxDepth := 3 } twoOfThree 3 1 "a || b && c".toList, call.depth ≤ 3) ∧
      evaluate { maxDepth := 3 } twoOfThree "a || b && c" = .ok (.bool true) ∧
      evaluate { maxDepth := 32 } twoOfThree "a || b && c" = .ok (.bool true) ∧
      evaluate { maxDepth := 4, maxLength := 5000 } twoOfThree "a || b && c" = .ok (.bool true) ∧
      ∃ e, evaluate { maxLength := 10 } twoOfThree "a || b && c" = .error e ∧
        e.toFault.kind = .invalidExpression := by
  obtain ⟨hcalls, hsame, hrefused, hwider⟩ := evaluate_three_levels "a || b && c" twoOfThree
  have hvalue : evaluate { maxDepth := 3 } twoOfThree "a || b && c" = .ok (.bool true) := rfl
  refine ⟨by decide +kernel, hcalls { maxDepth := 3 }, hvalue, ?_, ?_, ?_⟩
  · rw [← hsame { maxDepth := 3 } { maxDepth := 32 } (by decide) (by decide) rfl]
    exact hvalue
  · exact hwider { maxDepth := 3 } _ _ (by decide) (by decide) hvalue
  · exact (hrefused { maxLength := 10 } (by decide)).1.2 (Or.inr (by decide))

end Levels
end Expression
end RecordRules
