import Mathlib.Data.List.Forall2
import RecordRules.Calculation
import RecordRules.Measure.Evaluate
import RecordRules.Proofs.Expression.Mentions
import RecordRules.Proofs.Measure.Keys
import RecordRules.Validation.Issues

/-!
# Fields that make no difference

Rules, conditions, measures and calculated fields do not depend on fields that their expressions do
not mention.

* `Fields.get?_setAll`: what is set last is found.
* `Circumstances`: what the expressions of a check of a record or a transition are evaluated in.
* `context_agreeUpTo`: two versions of a record that agree on what is mentioned make contexts that
  agree but for the records under `this` and `previous`.
* `Measure.context_agreeOn`: so do two settings of the parameters of a measure, with no exception.
* `verdict_of_agreeOn` is the theorem.
-/

set_option autoImplicit false

namespace RecordRules

/-! ## Setting many names -/

namespace Fields

variable {α : Type}

theorem get?_eq_none_of_not_mem {fields : Fields α} {key : String} (h : key ∉ fields.names) :
    get? fields key = none := by
  induction fields with
  | nil => rfl
  | cons f rest ih =>
    obtain ⟨hne, hrest⟩ := not_or.1 (mt List.mem_cons.2 h)
    rw [get?, if_neg (Ne.symm hne), ih hrest]

/-- What is set is found, and what is not set stays. -/
theorem get?_setAll (fields : Fields α) {more : Fields α} (h : more.names.Nodup) (key : String) :
    get? (setAll fields more) key = (get? more key).or (get? fields key) := by
  induction more generalizing fields with
  | nil => rfl
  | cons f rest ih =>
    obtain ⟨hnew, hrest⟩ := List.nodup_cons.1 h
    change get? (setAll (set fields f.1 f.2) rest) key = _
    rw [ih _ hrest, get?, get?_set]
    by_cases hkey : f.1 = key
    · subst hkey
      rw [get?_eq_none_of_not_mem hnew, if_pos rfl, if_pos rfl, Option.none_or, Option.some_or]
    · rw [if_neg hkey, if_neg (Ne.symm hkey)]

theorem get?_setAll_nil {more : Fields α} (h : more.names.Nodup) (key : String) :
    get? (setAll [] more) key = get? more key := by
  rw [get?_setAll [] h, get?_nil, Option.or_none]

end Fields

open Expression

variable {expression : String}

/-! ## Parameters of measures -/

namespace Measure

theorem mentions_of_dollar {name : String} (h : Mentions expression ("$" ++ name)) :
    Mentions expression name := by
  rw [Mentions, String.toList_append] at h
  exact (List.suffix_append _ _).isInfix.trans h

/-- Values set under the names of parameters keep contexts in agreement if those under mentioned
names are the same. -/
theorem foldl_set_agreeOn {value value' : Parameter → Value} {ps : List Parameter}
    (h : ∀ p ∈ ps, Mentions expression p.name → value p = value' p) {c d : Context}
    (hcd : AgreeOn expression c d) :
    AgreeOn expression
      (ps.foldl (fun ctx p => (Fields.set ctx p.name (value p)).set ("$" ++ p.name) (value p)) c)
      (ps.foldl (fun ctx p => (Fields.set ctx p.name (value' p)).set ("$" ++ p.name) (value' p))
        d) := by
  induction ps generalizing c d with
  | nil => exact hcd
  | cons p rest ih =>
    rw [List.forall_mem_cons] at h
    exact ih h.2 ((hcd.set h.1).set fun hp => h.1 (mentions_of_dollar hp))

/-- **Parameters that agree where they are mentioned** make contexts that agree there. -/
theorem context_agreeOn {m : Measure} {supplied supplied' values values' : Fields Value}
    (h : AgreeOn expression supplied supplied') (hvalues : m.resolve supplied = .ok values)
    (hvalues' : m.resolve supplied' = .ok values') :
    AgreeOn expression (context values) (context values') := by
  have hsettled : ∀ p ∈ m.parameters, Mentions expression p.name →
      settled supplied p = settled supplied' p := by
    intro p _ hp
    rw [settled, settled, parameterValue?, parameterValue?, h p.name hp]
  rw [resolveFrom_eq_ok hvalues, resolveFrom_eq_ok hvalues', context, context, List.foldl_map,
    List.foldl_map]
  exact foldl_set_agreeOn hsettled fun _ _ => rfl

end Measure

/-! ## Records -/

section Versions

variable {data data' : Fields Value} {other other' : Option (Fields Value)}
  (hdata : AgreeOn expression data data')
  (hother : Option.Rel (AgreeOn expression) other other')
include hdata hother

namespace Calculation

/-- The names of whole records that a calculated field can refer to. -/
def wholes : List String := ["this", "parent", "$parent"]

/-- Versions of a record and its parent that agree where they are mentioned make contexts that
agree there, but for the records themselves. -/
theorem context_agreeUpTo :
    AgreeUpTo wholes expression (context data other) (context data' other') := by
  have hthis : AgreeUpTo wholes expression (data.set "this" (.map data))
      (data'.set "this" (.map data')) :=
    (AgreeUpTo.of_agreeOn hdata).set_map (by decide) hdata
  rw [context.eq_def, context.eq_def]
  cases hother with
  | none => exact hthis
  | some hparent => exact (hthis.set_map (by decide) hparent).set_map (by decide) hparent

end Calculation

namespace Validation

/-- The names of whole records that a rule or a condition can refer to. -/
def wholes : List String := ["this", "previous"]

/-- Versions of a record, and of what it was before, that agree where they are mentioned make
contexts that agree there, but for the records themselves. -/
theorem context_agreeUpTo (e : Entity) (event : Option String) (hnames : data.names.Nodup)
    (hnames' : data'.names.Nodup) :
    AgreeUpTo wholes expression (context e (some data) other event)
      (context e (some data') other' event) := by
  have hfields : AgreeOn expression (Fields.setAll [] data) (Fields.setAll [] data') := by
    intro name hname
    rw [Fields.get?_setAll_nil hnames, Fields.get?_setAll_nil hnames', hdata name hname]
  have hthis : AgreeUpTo wholes expression ((Fields.setAll [] data).set "this" (.map data))
      ((Fields.setAll [] data').set "this" (.map data')) :=
    (AgreeUpTo.of_agreeOn hfields).set_map (by decide) hdata
  rw [context.eq_def, context.eq_def]
  refine ((AgreeUpTo.set_same ?_ _ _).set_same _ _).set_same _ _
  cases hother with
  | none => exact hthis
  | some hbefore => exact hthis.set_map (by decide) hbefore

end Validation
end Versions

namespace Validation

/-- What the expressions of a check of a record or of a transition are evaluated in, for the data of
the record and for what it was before. -/
inductive Circumstances : (Fields Value → Option (Fields Value) → Context) → Prop
  | record (e : Entity) (event : Option String) :
    Circumstances fun data previous => context e (some data) previous event
  | transition (e : Entity) (t : Transition) (actor : Option String) :
    Circumstances fun data previous =>
      transitionContext (context e (some data) previous (some transitionEvent)) t actor

theorem Circumstances.agreeUpTo {known : Fields Value → Option (Fields Value) → Context}
    (h : Circumstances known) {data data' : Fields Value} (hdata : AgreeOn expression data data')
    (hnames : data.names.Nodup) (hnames' : data'.names.Nodup)
    {previous previous' : Option (Fields Value)}
    (hprevious : Option.Rel (AgreeOn expression) previous previous') :
    AgreeUpTo wholes expression (known data previous) (known data' previous') := by
  cases h with
  | record e event => exact context_agreeUpTo hdata hprevious e event hnames hnames'
  | transition e t actor =>
    have h := context_agreeUpTo hdata hprevious e (some transitionEvent) hnames hnames'
    exact (((h.set_same _ _).set_same _ _).set_same _ _).set_same _ _

/-- What the expression of a rule about a field is evaluated in, for a check in a context. -/
def fieldContext (known : Context) (p : Property) (value : Value) : Context :=
  Fields.set (Fields.set known p.name value) "value" value

theorem checkFieldRule_expression {rule : Rule} (htype : rule.type = .expression)
    (hexpression : rule.expression = some expression) (checker : Checker) (known : Context)
    (p : Property) (value : Value) :
    (checkFieldRule checker known p value rule).1 = fieldIssue? rule p
      (if expression.isEmpty then .nothing
        else .verdict (holds checker.limits (fieldContext known p value) expression)
          s!"{p.displayName} validation failed") := by
  rw [checkFieldRule, checkValue, htype]
  dsimp only
  rw [checkExpression, hexpression, fieldContext]

end Validation

/-! ## The theorem -/

open Validation in
/-- **Only what an expression mentions can make a difference.**

* In two contexts that agree on every name that stands in the text of an expression, evaluation has
  the same outcome, value or error, and a condition holds in both or in neither.
* Two versions of a record, and of what it was before, that agree on these names find a rule about
  records or transitions, or a condition, broken both times or neither time, unless it asks whether
  two maps are equal, one of which is the whole record, now or before.  So do the rules about a
  field, provided that the field itself has the same value if `value` is mentioned.
* A calculated field has the same value, too, for such versions of a record and its parent, unless
  it asks that question or is one of the records itself.
* Settings of the parameters of a measure that agree on these names give it the same value, or let
  it fail alike. -/
theorem verdict_of_agreeOn (limits : Limits) (expression : String) :
    (∀ c d : Context, AgreeOn expression c d →
      evaluate limits c expression = evaluate limits d expression ∧
        holds limits c expression = holds limits d expression) ∧
    (∀ (data data' : Fields Value) (other other' : Option (Fields Value)),
      data.names.Nodup → data'.names.Nodup → AgreeOn expression data data' →
      Option.Rel (AgreeOn expression) other other' →
      (∀ known, Circumstances known →
        ¬ Equates Validation.wholes (known data other) expression →
        conditionIssue? limits (known data other) expression =
            conditionIssue? limits (known data' other') expression ∧
          ∀ level default rule, rule.expression = some expression →
            expressionIssue? limits (known data other) level default rule =
              expressionIssue? limits (known data' other') level default rule) ∧
      (∀ (checker : Checker) (e : Entity) (event : Option String) (p : Property) (rule : Rule),
        rule.type = .expression → rule.expression = some expression →
        (Mentions expression "value" → data.get? p.name = data'.get? p.name) →
        ¬ Equates Validation.wholes (fieldContext (context e (some data) other event) p
          ((data.get? p.name).getD .null)) expression →
        (checkFieldRule checker (context e (some data) other event) p
            ((data.get? p.name).getD .null) rule).1 =
          (checkFieldRule checker (context e (some data') other' event) p
            ((data'.get? p.name).getD .null) rule).1) ∧
      ∀ p : Property, p.expression? = some expression →
        ¬ Equates Calculation.wholes (Calculation.context data other) expression →
        Text.trimmed expression ∉ Calculation.wholes →
        Calculation.value? limits (Calculation.context data other) p =
          Calculation.value? limits (Calculation.context data' other') p) ∧
    ∀ (m : Measure) (supplied supplied' values values' : Fields Value),
      m.expression = expression → AgreeOn expression supplied supplied' →
      m.resolve supplied = .ok values → m.resolve supplied' = .ok values' →
      m.compute limits values = m.compute limits values' := by
  refine ⟨fun c d h => ?_, fun data data' other other' hnames hnames' hdata hother =>
    ⟨fun known hknown hequates => ?_,
      fun checker e event p rule htype hexpression hvalue hequates => ?_,
      fun p hp hequates hwhole => ?_⟩,
    fun m supplied supplied' values values' hm h hvalues hvalues' => ?_⟩
  · have hevaluate := evaluate_of_agreeOn limits h
    rw [holds, holds, hevaluate]
    exact ⟨rfl, rfl⟩
  · have hholds := (hknown.agreeUpTo hdata hnames hnames' hother).holds_eq limits hequates
    refine ⟨by rw [conditionIssue?, conditionIssue?, hholds], fun level default rule hrule => ?_⟩
    rw [expressionIssue?, expressionIssue?, hrule, Option.getD_some, hholds]
  · have hfield : Mentions expression p.name ∨ Mentions expression "value" →
        (data.get? p.name).getD .null = (data'.get? p.name).getD .null := by
      rintro (hname | hname)
      · rw [hdata p.name hname]
      · rw [hvalue hname]
    have hcontext : AgreeUpTo Validation.wholes expression
        (fieldContext (context e (some data) other event) p ((data.get? p.name).getD .null))
        (fieldContext (context e (some data') other' event) p ((data'.get? p.name).getD .null)) :=
      ((context_agreeUpTo hdata hother e event hnames hnames').set fun h =>
        .inl (hfield (.inl h))).set fun h => .inl (hfield (.inr h))
    rw [checkFieldRule_expression htype hexpression, checkFieldRule_expression htype hexpression,
      hcontext.holds_eq checker.limits hequates]
  · have hvalue := (Calculation.context_agreeUpTo hdata hother).toOption_evaluate_eq limits hequates
      hwhole
    rw [Calculation.value?, Calculation.value?, hp]
    dsimp only
    rw [hvalue]
  · have hcontext : AgreeOn m.expression (Measure.context values) (Measure.context values') :=
      Measure.context_agreeOn (hm ▸ h) hvalues hvalues'
    rw [Measure.compute, Measure.compute, evaluate_of_agreeOn limits hcontext]

/-! Invoices have an amount and a limit, and an expression that mentions both. -/

namespace Invoice

def entity : Entity :=
  { id := "invoice", name := "Invoice", properties := [], workflowId := none, unique := .nil }

/-- A property of invoices, which is calculated if there is an expression for it. -/
def property (name : String) (type : PropertyType) (calculation : Option String) : Property :=
  { name, type, label := none, required := false, readOnly := false, denormalize := false
    calculation, metadata := [] }

/-- A rule that an expression holds. -/
def rule (scope : Scope) (expression : String) : Rule :=
  { id := "rule", entityId := "invoice", propertyName := none, name := "rule", scope
    type := .expression, expression := some expression, errorMessage := none
    errorMessageKey := none, triggerEvents := [], metadata := [] }

/-- A measure of an invoice against a limit, with a note. -/
def measure : Measure :=
  { id := none, identifier := "within", version := 1, name := none, description := none
    parameters := [⟨"this", .null, none⟩, ⟨"limit", .null, none⟩, ⟨"note", .null, none⟩]
    expression := "this.amount <= limit", returnType := .bool, unique := by decide }

/-- An invoice. -/
def data : Fields Value := [("amount", .int 7), ("limit", .int 5)]

/-- The invoice with a note on it. -/
def noted : Fields Value := Fields.set data "note" (.text "x")

/-- What is supplied to the measure. -/
def supplied (note : String) : Fields Value :=
  [("this", .map data), ("limit", .int 5), ("note", .text note)]

/-- The expression is no equation. -/
theorem not_equates (wholes : List String) (c : Context) :
    ¬ Equates wholes c "this.amount <= limit" := by
  rintro ⟨op, left, right, hfind, hop, -⟩
  have hatMost : findComparison? (Text.trim "this.amount <= limit".toList) =
      some (.atMost, "this.amount ".toList, " limit".toList) := by decide +kernel
  cases hatMost.symm.trans hfind
  exact absurd hop (by decide)

end Invoice

open Validation in
/-- A note on an invoice makes no difference to a rule, a calculated field or a measure of its
amount. -/
theorem verdict_of_agreeOn_noted :
    AgreeOn "this.amount <= limit" Invoice.data Invoice.noted ∧
      expressionIssue? {} (context Invoice.entity (some Invoice.data) none none) .entity ""
          (Invoice.rule .entity "this.amount <= limit") =
        expressionIssue? {} (context Invoice.entity (some Invoice.noted) none none) .entity ""
          (Invoice.rule .entity "this.amount <= limit") ∧
      Calculation.value? {} (Calculation.context Invoice.data none)
          (Invoice.property "within" .calculated (some "this.amount <= limit")) =
        Calculation.value? {} (Calculation.context Invoice.noted none)
          (Invoice.property "within" .calculated (some "this.amount <= limit")) ∧
      Invoice.measure.compute {} (Invoice.supplied "x") =
        Invoice.measure.compute {} (Invoice.supplied "y") := by
  have hnote : ¬ Mentions "this.amount <= limit" "note" := by decide +kernel
  have hagree : AgreeOn "this.amount <= limit" Invoice.data Invoice.noted :=
    agreeOn_set_of_not_mentions _ _ hnote
  have hsupplied : AgreeOn "this.amount <= limit" (Invoice.supplied "x") (Invoice.supplied "y") :=
    agreeOn_set_of_not_mentions (Invoice.supplied "x") (.text "y") hnote
  obtain ⟨hrecord, -, hcalculated⟩ := (verdict_of_agreeOn {} "this.amount <= limit").2.1
    Invoice.data Invoice.noted none none (by decide) (by decide) hagree .none
  exact ⟨hagree,
    (hrecord _ (.record Invoice.entity none) (Invoice.not_equates _ _)).2 .entity "" _ rfl,
    hcalculated _ rfl (Invoice.not_equates _ _) (by decide +kernel),
    (verdict_of_agreeOn {} "this.amount <= limit").2.2 Invoice.measure _ _ _ _ rfl hsupplied rfl
      rfl⟩

open Validation in
/-- What is not mentioned does make a difference to a rule that compares the record as a whole, to a
calculated field that is the record, and to a rule about a field by the name of `value`. -/
theorem verdict_differs_whole :
    (AgreeOn "this == previous" Invoice.data Invoice.noted ∧
      (expressionIssue? {} (context Invoice.entity (some Invoice.data) (some Invoice.data) none)
        .entity "" (Invoice.rule .entity "this == previous")).isNone = true ∧
      (expressionIssue? {} (context Invoice.entity (some Invoice.noted) (some Invoice.data) none)
        .entity "" (Invoice.rule .entity "this == previous")).isNone = false) ∧
    (AgreeOn "this" Invoice.data Invoice.noted ∧
      ((Calculation.value? {} (Calculation.context Invoice.data none)
        (Invoice.property "copy" .calculated (some "this"))).bind (Value.at? · "note")).isNone =
          true ∧
      ((Calculation.value? {} (Calculation.context Invoice.noted none)
        (Invoice.property "copy" .calculated (some "this"))).bind (Value.at? · "note")).isNone =
          false) ∧
    AgreeOn "value" [] [("paid", .bool true)] ∧
      (checkFieldRule {} (context Invoice.entity (some []) none none)
        (Invoice.property "paid" .boolean none) .null (Invoice.rule .field "value")).1.isNone =
          false ∧
      (checkFieldRule {} (context Invoice.entity (some [("paid", .bool true)]) none none)
        (Invoice.property "paid" .boolean none) (.bool true) (Invoice.rule .field "value")).1.isNone
          = true := by
  have hpaid : AgreeOn "value" [] (Fields.set [] "paid" (.bool true)) :=
    agreeOn_set_of_not_mentions [] _ (by decide +kernel)
  exact ⟨⟨agreeOn_set_of_not_mentions _ _ (by decide +kernel), by decide +kernel,
    by decide +kernel⟩, ⟨agreeOn_set_of_not_mentions _ _ (by decide +kernel), by decide +kernel,
    by decide +kernel⟩, hpaid, by decide +kernel, by decide +kernel⟩

end RecordRules
