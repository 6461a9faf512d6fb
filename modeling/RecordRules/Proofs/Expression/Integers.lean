import RecordRules.Proofs.Number.Conversion
import RecordRules.Proofs.Expression.Agreement

/-!
# Comparing integers

`==` compares two integers as doubles.  That fails where one of them has no double, and does not
tell apart integers that are rounded to the same one.

* `Value.equal_int` is the outcome for any two integers.
* `Double.Faithful` says of two integers that nothing of this happens to them; integers of 53 bits
  are faithful (`faithful_of_le`).
* `evaluate_comparison` is the outcome of a comparison as an expression.
* `equality_faithful`: `==` and `!=` decide whether two integers are the same exactly if they are
  faithful.
-/

set_option autoImplicit false

namespace RecordRules

namespace Double

variable {a b : Int}

/-- Two integers that their doubles tell apart, if they are different: they have doubles, and are
not rounded to the same one. -/
structure Faithful (a b : Int) : Prop where
  left : a.natAbs < rangeEnd
  right : b.natAbs < rangeEnd
  apart : nearest a = nearest b → a = b

theorem faithful_of_le (ha : a.natAbs ≤ 2 ^ 53) (hb : b.natAbs ≤ 2 ^ 53) : Faithful a b where
  left := ha.trans_lt (by decide +kernel)
  right := hb.trans_lt (by decide +kernel)
  apart h := by rwa [nearest_of_le ha, nearest_of_le hb] at h

end Double

namespace Value

variable {a b : Int}

theorem intNumber_of_lt (h : a.natAbs < Double.rangeEnd) :
    ∃ x, Double.ofInt? a = some x ∧ intNumber a = .ok x := by
  obtain ⟨x, hx⟩ := Option.ne_none_iff_exists'.1 (mt Double.ofInt?_eq_none_iff.1 (Nat.not_le.2 h))
  exact ⟨x, hx, by rw [intNumber, hx]⟩

theorem intNumber_of_le (h : Double.rangeEnd ≤ a.natAbs) :
    intNumber a = .error .integerTooLarge := by
  rw [intNumber, Double.ofInt?_eq_none_iff.2 h]

/-- **Integers are equal if they are rounded to the same double**, and cannot be compared if one
of them is beyond the doubles. -/
theorem equal_int (a b : Int) : equal (.int a) (.int b) =
    if a.natAbs < Double.rangeEnd ∧ b.natAbs < Double.rangeEnd then
      .ok (decide (Double.nearest a = Double.nearest b))
    else .error .integerTooLarge := by
  rw [equal]
  rcases Nat.lt_or_ge a.natAbs Double.rangeEnd with ha | ha
  · obtain ⟨x, hx, hax⟩ := intNumber_of_lt ha
    rcases Nat.lt_or_ge b.natAbs Double.rangeEnd with hb | hb
    · obtain ⟨y, hy, hby⟩ := intNumber_of_lt hb
      rw [if_pos ⟨ha, hb⟩, hax, hby, ← Double.beq_of_ofInt? hx hy]
      rfl
    · rw [if_neg fun h => Nat.not_le.2 h.2 hb, hax, intNumber_of_le hb]
      rfl
  · rw [if_neg fun h => Nat.not_le.2 h.1 ha, intNumber_of_le ha]
    rfl

/-- Comparing two integers as doubles decides whether they are the same exactly if they are
faithful. -/
theorem equal_int_iff : equal (.int a) (.int b) = .ok (decide (a = b)) ↔ Double.Faithful a b := by
  rw [equal_int]
  constructor
  · intro h
    split at h
    · next hrange =>
      refine ⟨hrange.1, hrange.2, fun hnearest => ?_⟩
      rw [decide_eq_true hnearest, Except.ok.injEq, eq_comm, decide_eq_true_eq] at h
      exact h
    · cases h
  · intro h
    have hsame : Double.nearest a = Double.nearest b ↔ a = b := ⟨h.apart, congrArg Double.nearest⟩
    rw [if_pos ⟨h.left, h.right⟩, decide_eq_decide.2 hsame]

/-- Integers that are not faithful cannot be compared, or are equal although they differ. -/
theorem equal_int_of_not_faithful (h : ¬ Double.Faithful a b) :
    equal (.int a) (.int b) = .error .integerTooLarge ∨
      equal (.int a) (.int b) = .ok true ∧ a ≠ b := by
  rw [equal_int]
  split
  · next hrange =>
    obtain ⟨hnearest, hne⟩ : Double.nearest a = Double.nearest b ∧ a ≠ b := by
      rw [← Classical.not_imp]
      exact fun hapart => h ⟨hrange.1, hrange.2, hapart⟩
    exact .inr ⟨by rw [decide_eq_true hnearest], hne⟩
  · exact .inl rfl

end Value

namespace Expression

variable {limits : Limits} {context : Context} {op : Comparison} {left right : Atom}

/-- The text of a comparison. -/
def comparisonText (op : Comparison) (left right : Atom) : String :=
  String.ofList (Formula.comparison op left right).text

/-- A comparison that is evaluated: it is short enough, one level of evaluation is allowed, and it
is not as a whole a name of the context. -/
structure Evaluable (limits : Limits) (context : Context) (op : Comparison) (left right : Atom) :
    Prop where
  notName : context.get? (comparisonText op left right) = none
  short : ((comparisonText op left right).length : Int) ≤ limits.maxLength
  deep : 1 ≤ limits.maxDepth

/-- **A comparison is evaluated to whether it holds.** -/
theorem evaluate_comparison (h : Evaluable limits context op left right) :
    evaluate limits context (comparisonText op left right) =
      ((Formula.comparison op left right).value context).mapError
        (Error.within (Formula.comparison op left right).text) := by
  obtain ⟨depth, hdepth⟩ : ∃ depth, limits.maxDepth.toNat = depth + 1 :=
    ⟨limits.maxDepth.toNat - 1, by have := h.deep; omega⟩
  have hlength : ((Formula.comparison op left right).text.length : Int) ≤ limits.maxLength :=
    String.length_ofList ▸ h.short
  have hliteral : Value.literal? (Formula.comparison op left right).text = .ok none :=
    literal?_of_blank_mem Text.blank_mem_joined (Formula.quote_not_mem (by simp) _)
      (Formula.quote_not_mem (by simp) _)
  have hname := h.notName
  rw [comparisonText] at hname ⊢
  rw [evaluate_of_isTight (Formula.isTight _) hlength, evaluateTrimmed, hliteral, hdepth]
  simp only [ofValueError, ok_bind, hname, evaluateWithin_comparison]

/-- A comparison of two expressions has the result of comparing their values. -/
theorem evaluate_comparison_eq_ok_iff (h : Evaluable limits context op left right) {v w : Value}
    {b : Bool} (hleft : left.value context = .ok v) (hright : right.value context = .ok w) :
    evaluate limits context (comparisonText op left right) = .ok (.bool b) ↔
      op.decide v w = .ok b := by
  rw [evaluate_comparison h, mapError_eq_ok_iff, Formula.value, hleft, hright]
  simp only [ok_bind]
  cases op.decide v w with
  | error e => simp
  | ok c => simp [pure_eq_ok]

/-- `!=` is the negation of `==`. -/
theorem decide_unequal_iff (v w : Value) (b : Bool) :
    Comparison.unequal.decide v w = .ok (!b) ↔ v.equal w = .ok b := by
  rw [Comparison.decide]
  cases v.equal w with
  | error e => exact iff_of_false nofun nofun
  | ok c => cases b <;> cases c <;> decide

/-- **Equality of integers is decided by doubles.**  `==` and `!=` tell whether two integers are the
same exactly if the integers are faithful, which those of 53 bits are.  Otherwise they cannot be
compared, or are equal although they differ. -/
theorem equality_faithful (a b : Int) :
    (Value.equal (.int a) (.int b) = .ok (decide (a = b)) ↔ Double.Faithful a b) ∧
    (¬ Double.Faithful a b →
      Value.equal (.int a) (.int b) = .error .integerTooLarge ∨
        Value.equal (.int a) (.int b) = .ok true ∧ a ≠ b) ∧
    (a.natAbs ≤ 2 ^ 53 → b.natAbs ≤ 2 ^ 53 → Double.Faithful a b) ∧
    ∀ (limits : Limits) (context : Context) (left right : Atom),
      left.value context = .ok (.int a) → right.value context = .ok (.int b) →
      (Evaluable limits context .equal left right →
        (evaluate limits context (comparisonText .equal left right) = .ok (.bool (decide (a = b))) ↔
          Double.Faithful a b)) ∧
      (Evaluable limits context .unequal left right →
        (evaluate limits context (comparisonText .unequal left right) =
          .ok (.bool (decide (a ≠ b))) ↔ Double.Faithful a b)) := by
  refine ⟨Value.equal_int_iff, Value.equal_int_of_not_faithful, Double.faithful_of_le,
    fun limits context left right hleft hright => ⟨fun h => ?_, fun h => ?_⟩⟩
  · rw [evaluate_comparison_eq_ok_iff h hleft hright]
    exact Value.equal_int_iff
  · rw [evaluate_comparison_eq_ok_iff h hleft hright, decide_not, decide_unequal_iff]
    exact Value.equal_int_iff

/-- A context with two counters. -/
def counters (sent seen : Int) : Context := [("sent", .int sent), ("seen", .int seen)]

/-- The names of the counters. -/
def sentCounter : Atom := .ofText "sent" (by decide) (by decide)

@[inherit_doc sentCounter]
def seenCounter : Atom := .ofText "seen" (by decide) (by decide)

theorem comparisonText_counters : comparisonText .equal sentCounter seenCounter = "sent == seen" ∧
    comparisonText .unequal sentCounter seenCounter = "sent != seen" := by
  decide +kernel

/-- The last two integers of 53 bits are told apart. -/
theorem equality_faithful_counters :
    (2 ^ 53 - 1 : Int).natAbs ≤ 2 ^ 53 ∧ (2 ^ 53 : Int).natAbs ≤ 2 ^ 53 ∧
      evaluate {} (counters (2 ^ 53 - 1) (2 ^ 53)) "sent == seen" = .ok (.bool false) ∧
      evaluate {} (counters (2 ^ 53 - 1) (2 ^ 53)) "sent != seen" = .ok (.bool true) := by
  have hsent : (2 ^ 53 - 1 : Int).natAbs ≤ 2 ^ 53 := by decide
  have hseen : (2 ^ 53 : Int).natAbs ≤ 2 ^ 53 := by decide
  obtain ⟨-, -, hsmall, htexts⟩ := equality_faithful (2 ^ 53 - 1) (2 ^ 53)
  obtain ⟨hequal, hunequal⟩ :=
    htexts {} (counters (2 ^ 53 - 1) (2 ^ 53)) sentCounter seenCounter rfl rfl
  refine ⟨hsent, hseen, ?_, ?_⟩
  · rw [← comparisonText_counters.1]
    exact (hequal ⟨by decide +kernel, by decide +kernel, by decide⟩).2 (hsmall hsent hseen)
  · rw [← comparisonText_counters.2]
    exact (hunequal ⟨by decide +kernel, by decide +kernel, by decide⟩).2 (hsmall hsent hseen)

/-- The first integers of 54 bits are not all told apart, and an integer beyond the doubles is not
even equal to itself. -/
theorem equality_unfaithful :
    (2 ^ 53 : Int) ≠ 2 ^ 53 + 1 ∧
      Value.equal (.int (2 ^ 53)) (.int (2 ^ 53 + 1)) = .ok true ∧
      evaluate {} (counters (2 ^ 53) (2 ^ 53 + 1)) "sent == seen" = .ok (.bool true) ∧
      evaluate {} (counters (2 ^ 53) (2 ^ 53 + 1)) "sent != seen" = .ok (.bool false) ∧
      Value.equal (.int (10 ^ 400)) (.int (10 ^ 400)) = .error .integerTooLarge := by
  have hequal : Value.equal (.int (2 ^ 53)) (.int (2 ^ 53 + 1)) = .ok true := by decide +kernel
  refine ⟨by decide, hequal, ?_, ?_, by decide +kernel⟩
  · rw [← comparisonText_counters.1, evaluate_comparison_eq_ok_iff
      ⟨by decide +kernel, by decide +kernel, by decide⟩ rfl rfl]
    exact hequal
  · rw [← comparisonText_counters.2, evaluate_comparison_eq_ok_iff
      ⟨by decide +kernel, by decide +kernel, by decide⟩ rfl rfl]
    exact (decide_unequal_iff _ _ true).2 hequal

end Expression
end RecordRules
