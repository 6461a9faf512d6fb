import RecordRules.Proofs.Expression.Likeness
import RecordRules.Proofs.Value.Ordered

/-!
# Expressions and the order of entries

An expression does not see in which order the entries of a map stand, neither in the context nor
inside of its values.  Only the message of a failure can tell.

* `Context.Alike`: two contexts have the same names, with values that differ at most in the order
  of entries.
* `Outcome.Agree`: two outcomes are both values that are related, or both failures.
* `Likeness.order`: everything an expression does with values but to write them ignores the order.
* `evaluate_alike`: in such contexts an expression has such outcomes.
-/

set_option autoImplicit false

namespace RecordRules

/-! ## Parts of values -/

namespace Value

@[simp] theorem entries?_ordered (v : Value) :
    v.ordered.entries? = v.entries?.map fun entries => Fields.sorted (orderedEntries entries) := by
  cases v <;> rfl

@[simp] theorem typeLabel_ordered (v : Value) : v.ordered.typeLabel = v.typeLabel := by
  cases v <;> rfl

theorem at?_ordered (v : Value) (name : String) :
    v.ordered.at? name = (v.at? name).map ordered := by
  rw [at?, at?, entries?_ordered]
  cases v.entries? with
  | none => rfl
  | some entries =>
    rw [Option.map_some, Option.bind_some, Option.bind_some, Fields.get?_sorted,
      get?_orderedEntries]

namespace Alike

variable {v w : Value}

theorem refl (v : Value) : v.Alike v := rfl

theorem isTrue (h : v.Alike w) : v.isTrue = w.isTrue := by
  rw [← isTrue_ordered v, ← isTrue_ordered w, h]

theorem toNumber (h : v.Alike w) : v.toNumber = w.toNumber := by
  rw [← toNumber_ordered v, ← toNumber_ordered w, h]

theorem equal {v' w' : Value} (h : v.Alike w) (h' : v'.Alike w') :
    v.equal v' = w.equal w' := by
  rw [← equal_ordered v v', ← equal_ordered w w', h, h']

/-- What a function does not tell apart, it does not tell apart inside of options. -/
theorem rel_of_map_eq {α β : Type} {f : α → β} {x y : Option α} (h : x.map f = y.map f) :
    Option.Rel (fun a b => f a = f b) x y := by
  cases x <;> cases y
  · exact .none
  · cases h
  · cases h
  · exact .some (Option.some.inj h)

theorem items? (h : v.Alike w) :
    Option.Rel (fun xs ys => orderedItems xs = orderedItems ys) v.items? w.items? := by
  refine rel_of_map_eq ?_
  rw [← items?_ordered v, ← items?_ordered w, h]

theorem at? (h : v.Alike w) (name : String) : Option.Rel Alike (v.at? name) (w.at? name) := by
  refine rel_of_map_eq ?_
  rw [← at?_ordered, ← at?_ordered, h]

end Alike
end Value

namespace Expression

/-! ## Outcomes -/

namespace Outcome

variable {α : Type} {r : α → α → Prop}

/-- Two outcomes are both values that are related, or both failures. -/
inductive Agree (r : α → α → Prop) : Outcome α → Outcome α → Prop
  | ok {a b : α} (h : r a b) : Agree r (.ok a) (.ok b)
  | error (e e' : Error) : Agree r (.error e) (.error e')

theorem Related.agree {e : Error → Error → Prop} {x y : Outcome α} (h : Related e r x y) :
    Agree r x y := by
  cases h with
  | ok h => exact .ok h
  | error => exact .error _ _

end Outcome

/-- Two contexts have the same names, with values that are alike. -/
def Context.Alike (c d : Context) : Prop :=
  ∀ name, Option.Rel Value.Alike (c.get? name) (d.get? name)

open Outcome (Agree)

/-! ## Operations -/

theorem decide_alike (op : Comparison) {v v' w w' : Value} (h : v.Alike w) (h' : v'.Alike w') :
    op.decide v v' = op.decide w w' := by
  cases op <;> simp only [Comparison.decide, h.equal h', h.toNumber, h'.toNumber]

theorem kindOf_ordered (v : Value) : kindOf v.ordered = kindOf v := by
  rw [kindOf, kindOf, Value.kind?_ordered, Value.typeLabel_ordered]

theorem total_ordered (items : List Value) : total (Value.orderedItems items) = total items := by
  rw [total, total, Value.orderedItems_eq_map, List.foldlM_map]
  simp only [Value.toNumber_ordered]

theorem column_eq_filterMap (field : String) (items : List Value) : column field items =
    items.filterMap fun item => item.entries?.map fun entries =>
      (Fields.get? entries field).getD .null := by
  refine congrArg (fun f => items.filterMap f) (funext fun item => ?_)
  cases item <;> rfl

theorem column_ordered (field : String) (items : List Value) :
    column field (Value.orderedItems items) = Value.orderedItems (column field items) := by
  rw [column_eq_filterMap, column_eq_filterMap, Value.orderedItems_eq_map,
    Value.orderedItems_eq_map, List.filterMap_map, List.map_filterMap]
  refine congrArg (fun f => items.filterMap f) (funext fun item => ?_)
  rw [Function.comp_apply, Value.entries?_ordered]
  cases item.entries? with
  | none => rfl
  | some entries =>
    simp only [Option.map_some, Fields.get?_sorted, Value.get?_orderedEntries]
    cases Fields.get? entries field <;> rfl

/-- The items of values that are alike have the same sum. -/
theorem total_alike {xs ys : List Value} (h : Value.orderedItems xs = Value.orderedItems ys) :
    total xs = total ys := by
  rw [← total_ordered xs, h, total_ordered]

theorem column_alike (field : String) {xs ys : List Value}
    (h : Value.orderedItems xs = Value.orderedItems ys) :
    Value.orderedItems (column field xs) = Value.orderedItems (column field ys) := by
  rw [← column_ordered, h, column_ordered]

/-! ## Expressions -/

/-- Values that differ in the order of entries are alike for every expression.  Errors may differ,
since a sum over a map shows the map. -/
def Likeness.order : Likeness where
  Reads _ := True
  Values := Value.Alike
  Lists xs ys := Value.orderedItems xs = Value.orderedItems ys
  Errors _ _ := True
  reads_part _ _ := trivial
  values_refl := Value.Alike.refl
  errors_refl _ := trivial
  at? h _ := h.at? _
  isTrue h := h.isTrue
  toNumber h := h.toNumber
  kindOf h := by rw [← kindOf_ordered, h, kindOf_ordered]
  items? h := h.items?
  column field h := column_alike field h
  total h := total_alike h
  notAList source kind h := by
    rw [Expression.notAList, Expression.notAList]
    split <;> split <;> exact .error trivial
  within _ _ := trivial

/-- **An expression does not see the order of entries.** -/
theorem evaluate_alike {c d : Context} (limits : Limits) (h : c.Alike d) (expression : String) :
    Agree Value.Alike (evaluate limits c expression) (evaluate limits d expression) := by
  have hcontexts : Likeness.order.Contexts c d := fun name _ => h _
  have hcompares : Likeness.Compares c d (Text.trim expression.toList) := by
    intro op left right _ v w v' w' hv hw hv' hw'
    have hleft : Outcome.Related _ Value.Alike (simpleValue c (Text.trim left))
      (simpleValue d (Text.trim left)) := hcontexts.simpleValue_related trivial
    have hright : Outcome.Related _ Value.Alike (simpleValue c (Text.trim right))
      (simpleValue d (Text.trim right)) := hcontexts.simpleValue_related trivial
    rw [hv, hw] at hleft
    rw [hv', hw'] at hright
    cases hleft with
    | ok hleft =>
      cases hright with
      | ok hright => exact decide_alike op hleft hright
  exact (hcontexts.evaluate_related Value.Alike.refl limits trivial hcompares
    (hcontexts.reference_related trivial)).agree

end Expression
end RecordRules
