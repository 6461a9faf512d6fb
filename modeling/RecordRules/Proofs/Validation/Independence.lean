import Mathlib.Data.Prod.Lex
import Mathlib.Data.String.Basic
import RecordRules.Proofs.Store.Documents
import RecordRules.Proofs.System.Exactness
import RecordRules.Proofs.Validation.Findings

/-!
# Rules do not interfere

A rule that is saved adds at most one issue to any check, and all other issues stay as they are, in
their order.

* `Gains`: a list is another one with at most one more item somewhere.
* `activeRules_gains`: a further rule takes its place among the others without moving them.
* `recordIssues_eq` and `transitionIssues_eq` are the issues of a check as a function of the tables,
  each rule on its own.
* `Rule.ConcernsRecords` and `Rule.ConcernsTransition` say which checks a rule can add an issue to.
* `Reachable.saveRule_independent` is the theorem.
-/

set_option autoImplicit false

namespace RecordRules

/-! ## One more item -/

/-- The second list is the first with at most one more item, for which something holds. -/
def Gains {α : Type} (p : α → Prop) (old new : List α) : Prop :=
  new = old ∨ ∃ before a after, old = before ++ after ∧ new = before ++ a :: after ∧ p a

namespace Gains

variable {α β : Type} {p q : α → Prop} {old new : List α}

theorem refl (p : α → Prop) (l : List α) : Gains p l l := Or.inl rfl

theorem mono (h : Gains p old new) (hpq : ∀ a, p a → q a) : Gains q old new := by
  rcases h with rfl | ⟨before, a, after, rfl, rfl, ha⟩
  · exact .refl q _
  · exact Or.inr ⟨before, a, after, rfl, rfl, hpq a ha⟩

theorem append_left (l : List α) (h : Gains p old new) : Gains p (l ++ old) (l ++ new) := by
  rcases h with rfl | ⟨before, a, after, rfl, rfl, ha⟩
  · exact .refl p _
  · exact Or.inr ⟨l ++ before, a, after, by simp, by simp, ha⟩

theorem append_right (l : List α) (h : Gains p old new) : Gains p (old ++ l) (new ++ l) := by
  rcases h with rfl | ⟨before, a, after, rfl, rfl, ha⟩
  · exact .refl p _
  · exact Or.inr ⟨before, a, after ++ l, by simp, by simp, ha⟩

/-- What is made of the items one by one gains at most what is made of the new one. -/
theorem filterMap (f : α → Option β) (h : Gains p old new) :
    Gains (fun b => ∃ a, p a ∧ f a = some b) (old.filterMap f) (new.filterMap f) := by
  rcases h with rfl | ⟨before, a, after, rfl, rfl, ha⟩
  · exact .refl _ _
  · rw [List.filterMap_append, List.filterMap_append, List.filterMap_cons]
    cases hf : f a with
    | none => exact .refl _ _
    | some b => exact Or.inr ⟨_, b, _, rfl, rfl, a, ha, hf⟩

theorem filter (f : α → Bool) (h : Gains p old new) :
    Gains (fun a => p a ∧ f a = true) (old.filter f) (new.filter f) := by
  rcases h with rfl | ⟨before, a, after, rfl, rfl, ha⟩
  · exact .refl _ _
  · rw [List.filter_append, List.filter_append, List.filter_cons]
    split
    · rename_i hf
      exact Or.inr ⟨_, a, _, rfl, rfl, ha, hf⟩
    · exact .refl _ _

/-- Where only one part can gain an item, the whole gains at most one. -/
theorem flatMap {parts : List α} {f g : α → List β} {r : β → Prop}
    (hone : parts.Pairwise fun a b => p a → ¬ p b)
    (h : ∀ a ∈ parts, Gains (fun b => p a ∧ r b) (f a) (g a)) :
    Gains (fun b => (∃ a ∈ parts, p a) ∧ r b) (parts.flatMap f) (parts.flatMap g) := by
  induction parts with
  | nil => exact .refl _ _
  | cons a rest ih =>
    rw [List.pairwise_cons] at hone
    rw [List.flatMap_cons, List.flatMap_cons]
    have hrest := ih hone.2 fun b hb => h b (List.mem_cons_of_mem a hb)
    rcases h a (List.mem_cons_self ..) with hsame | ⟨before, b, after, hf, hg, ha, hb⟩
    · rw [hsame]
      refine (hrest.append_left (f a)).mono ?_
      rintro c ⟨⟨x, hx, hp⟩, hc⟩
      exact ⟨⟨x, List.mem_cons_of_mem a hx, hp⟩, hc⟩
    · -- the first part gains, so no other part does
      have hothers : rest.flatMap g = rest.flatMap f := by
        rw [List.flatMap_def, List.flatMap_def]
        congr 1
        refine List.map_congr_left fun x hx => ?_
        rcases h x (List.mem_cons_of_mem a hx) with hsame | ⟨_, _, _, _, _, hp, _⟩
        · exact hsame
        · exact absurd hp (hone.1 x hx ha)
      rw [hothers]
      exact append_right _ (Or.inr ⟨before, b, after, hf, hg, ⟨a, List.mem_cons_self .., ha⟩, hb⟩)

end Gains

/-- Two checks fail alike, or the second finds the issues of the first and at most one more, for
which something holds. -/
def GainsIssue (p : Issue → Prop) : Result (List Issue) → Result (List Issue) → Prop
  | .ok old, .ok new => Gains p old new
  | .error e, .error e' => e' = e
  | _, _ => False

/-! ## The order of rules -/

namespace Database

theorem rulePrecedes_iff {a b : Rule} :
    rulePrecedes a b = true ↔ toLex (a.name, a.id) ≤ toLex (b.name, b.id) := by
  rw [Prod.Lex.toLex_le_toLex, rulePrecedes, Bool.or_eq_true, Bool.and_eq_true, decide_eq_true_eq,
    decide_eq_true_eq, beq_iff_eq]

theorem rulePrecedes_trans (a b c : Rule) (hab : rulePrecedes a b = true)
    (hbc : rulePrecedes b c = true) : rulePrecedes a c = true := by
  rw [rulePrecedes_iff] at *
  exact hab.trans hbc

theorem rulePrecedes_total (a b : Rule) : (rulePrecedes a b || rulePrecedes b a) = true := by
  rw [Bool.or_eq_true, rulePrecedes_iff, rulePrecedes_iff]
  exact le_total _ _

/-- Rules that precede each other have the same id. -/
theorem rulePrecedes_antisymm {a b : Rule} (hab : rulePrecedes a b = true)
    (hba : rulePrecedes b a = true) : a.id = b.id := by
  rw [rulePrecedes_iff] at hab hba
  exact (Prod.mk.inj (toLex.injective (le_antisymm hab hba))).2

/-- Sorted lists of the same rules are the same, since no two rules share an id. -/
theorem mergeSort_rules_eq {rs ss : List Rule} (hids : (rs.map Rule.id).Nodup) (h : rs.Perm ss) :
    rs.mergeSort rulePrecedes = ss.mergeSort rulePrecedes := by
  refine List.Perm.eq_of_pairwise (fun a b ha hb hab hba => ?_)
    (List.pairwise_mergeSort rulePrecedes_trans rulePrecedes_total _)
    (List.pairwise_mergeSort rulePrecedes_trans rulePrecedes_total _)
    ((List.mergeSort_perm _ _).trans (h.trans (List.mergeSort_perm _ _).symm))
  exact List.inj_on_of_nodup_map hids (List.mem_mergeSort.1 ha)
    (h.mem_iff.2 (List.mem_mergeSort.1 hb)) (rulePrecedes_antisymm hab hba)

/-- The rules of the tables that a test selects, in the order of insertion. -/
def selected (t : Tables) (selects : Rule → Bool) : List Rule :=
  t.rules.filterMap fun s => if s.active && selects s.rule then some s.rule else none

theorem selected_sublist (t : Tables) (selects : Rule → Bool) :
    (selected t selects).Sublist (t.rules.map StoredRule.rule) := by
  rw [selected, ← List.filterMap_eq_map]
  induction t.rules with
  | nil => exact .slnil
  | cons s rest ih =>
    rw [List.filterMap_cons, List.filterMap_cons]
    cases s.active && selects s.rule with
    | true => exact ih.cons_cons _
    | false => exact ih.cons _

theorem selected_nodup {t : Tables} (hk : t.Keyed) (selects : Rule → Bool) :
    ((selected t selects).map Rule.id).Nodup := by
  refine ((selected_sublist t selects).map Rule.id).nodup ?_
  rw [List.map_map]
  exact hk.rules

/-- **A further rule takes its place among the others without moving them.** -/
theorem activeRules_gains {t : Tables} (hk : t.Keyed) {s : StoredRule}
    (hs : (Insert.rule s).Fits t) (selects : Rule → Bool) :
    Gains (fun r => r = s.rule ∧ s.active = true ∧ selects s.rule = true) (activeRules t selects)
      (activeRules ((Insert.rule s).apply t) selects) := by
  have hnew : selected ((Insert.rule s).apply t) selects =
      selected t selects ++ (if s.active && selects s.rule then [s.rule] else []) := by
    rw [selected, Insert.apply, List.filterMap_append, selected, List.filterMap_cons,
      List.filterMap_nil]
    cases s.active && selects s.rule <;> rfl
  have hids := selected_nodup (Insert.keyed hk hs) selects
  change Gains _ ((selected t selects).mergeSort rulePrecedes)
    ((selected ((Insert.rule s).apply t) selects).mergeSort rulePrecedes)
  rw [hnew] at hids ⊢
  cases hselected : s.active && selects s.rule with
  | false =>
    rw [hselected] at hids
    rw [if_neg Bool.false_ne_true, List.append_nil]
    exact .refl _ _
  | true =>
    rw [hselected, if_pos rfl] at hids
    rw [if_pos rfl]
    obtain ⟨before, after, hcons, hold, -⟩ :=
      List.mergeSort_cons rulePrecedes_trans rulePrecedes_total s.rule (selected t selects)
    refine Or.inr ⟨before, s.rule, after, hold, ?_, rfl, Bool.and_eq_true_iff.1 hselected⟩
    rw [← hcons]
    exact mergeSort_rules_eq hids List.perm_append_comm

end Database

/-! ## Checks as functions of the tables -/

namespace Validation

open Database

variable {db : Database} {t : Tables}

/-- The rules of an entity in force that are about a field and run on an event. -/
def rulesOfField (t : Tables) (entityId : String) (event : Option String) (p : Property) :
    List Rule :=
  (activeRules t fun r => r.entityId == entityId && r.propertyName == some p.name &&
    r.scope == .field).filter fun r => r.appliesTo event

/-- The rules of an entity in force that are of a scope and run on an event. -/
def rulesOfScope (t : Tables) (entityId : String) (event : Option String) (scope : Scope) :
    List Rule :=
  (activeRules t fun r => r.entityId == entityId && r.scope == scope).filter fun r =>
    r.appliesTo event

/-- The scopes of the rules about a record, in the order in which they are checked. -/
def recordScopes : List Scope := [.field, .entity, .crossEntity]

theorem flatMap_recordScopes {α : Type} (f : Scope → List α) :
    recordScopes.flatMap f = f .field ++ f .entity ++ f .crossEntity := by
  rw [recordScopes, List.flatMap_cons, List.flatMap_cons, List.flatMap_singleton, List.append_assoc]

/-- The issues of a record that the rules of a scope find. -/
def issuesOfScope (t : Tables) (checker : Checker) (entityId : String) (e : Entity)
    (data : Fields Value) (event : Option String) (previous : Option (Fields Value)) :
    Scope → List Issue
  | .field => e.properties.flatMap fun p =>
    (rulesOfField t entityId event p).filterMap fun rule =>
      (checkFieldRule checker (context e (some data) previous event) p
        ((data.get? p.name).getD .null) rule).1
  | .entity => (rulesOfScope t entityId event .entity).filterMap
    (expressionIssue? checker.limits (context e (some data) previous event) .entity
      "Entity validation failed")
  | .crossEntity => (rulesOfScope t entityId event .crossEntity).filterMap
    (expressionIssue? checker.limits (context e (some data) previous event) .crossEntity
      "Cross-entity validation failed")
  | .transition => []

theorem mapM_eq_ok {α β ε : Type} {f : α → Except ε β} {g : α → β} {l : List α}
    (h : ∀ a, f a = .ok (g a)) : l.mapM f = .ok (l.map g) := by
  induction l with
  | nil => rfl
  | cons a rest ih => rw [List.mapM_cons, h, ok_bind, ih, ok_bind, List.map_cons, pure_eq_ok]

theorem getFieldRules_eq (ht : db.tables = some t) (entityId propertyName : String) :
    db.getFieldRules entityId propertyName = .ok (activeRules t fun r =>
      r.entityId == entityId && r.propertyName == some propertyName && r.scope == .field) :=
  read_eq_ok_iff.2 ⟨t, ht, rfl⟩

theorem fieldRules_eq (ht : db.tables = some t) (entityId : String) (event : Option String)
    (p : Property) :
    fieldRules db entityId event p =
      .ok ((rulesOfField t entityId event p).map fun r => (p, r)) := by
  rw [fieldRules, getFieldRules_eq ht]
  rfl

theorem getRulesByScope_eq (ht : db.tables = some t) (entityId : String) (scope : Scope) :
    db.getRulesByScope entityId scope =
      .ok (activeRules t fun r => r.entityId == entityId && r.scope == scope) :=
  read_eq_ok_iff.2 ⟨t, ht, rfl⟩

/-- **The issues of a record**, scope by scope and rule by rule. -/
theorem recordIssues_eq (ht : db.tables = some t) (checker : Checker) (entityId : String)
    (data : Fields Value) (event : Option String) (previous : Option (Fields Value)) :
    (recordIssues db checker entityId data event previous).map Prod.fst =
      (findEntity db entityId).map fun e =>
        recordScopes.flatMap (issuesOfScope t checker entityId e data event previous) := by
  rw [recordIssues]
  cases findEntity db entityId with
  | error e => rfl
  | ok e =>
    obtain ⟨hfields, hagrees⟩ := @collect_eq_filterMap _
      (fun checker a => checkFieldRule checker (context e (some data) previous event) a.1
        ((data.get? a.1.name).getD .null) a.2) _ _
      (fun _ hc a => checkFieldRule_agrees hc _ a.1 _ a.2) (.refl checker)
      (e.properties.map fun p => (rulesOfField t entityId event p).map fun r => (p, r)).flatten
    rw [ok_bind]
    dsimp only
    rw [mapM_eq_ok (fieldRules_eq ht entityId event), ok_bind, scopeIssues, scopeIssues,
      getRulesByScope_eq ht, ok_bind, getRulesByScope_eq ht, ok_bind, pure_eq_ok, ok_bind,
      pure_eq_ok, ok_bind, pure_eq_ok, hfields, hagrees.limits]
    refine congrArg Except.ok (Eq.trans ?_ (flatMap_recordScopes _).symm)
    refine congrArg (· ++ _ ++ _) ?_
    rw [issuesOfScope, List.filterMap_flatten, List.map_map, List.flatMap_def]
    congr 1
    refine List.map_congr_left fun p _ => ?_
    rw [Function.comp_apply, List.filterMap_map]
    rfl

/-- The rules about a transition that run before it is made. -/
def rulesOfTransition (t : Tables) (entityId transitionId : String) : List Rule :=
  (activeRules t fun r => r.entityId == entityId && r.scope == .transition).filter fun r =>
    r.appliesTo (some transitionEvent) && isAbout transitionId r

/-- **The issues of a transition**: of its conditions, then of the rules about it. -/
theorem transitionIssues_eq (ht : db.tables = some t) (limits : Expression.Limits)
    (entityId : String) (data : Fields Value) (u : Transition) (actor : Option String)
    (previous : Option (Fields Value)) :
    transitionIssues db limits entityId data u actor previous =
      (findEntity db entityId).map fun e =>
        let known :=
          transitionContext (context e (some data) previous (some transitionEvent)) u actor
        (u.conditions.getD []).filterMap (conditionIssue? limits known) ++
          (rulesOfTransition t entityId u.id).filterMap
            (expressionIssue? limits known .transition "Transition validation failed") := by
  rw [transitionIssues]
  cases findEntity db entityId with
  | error e => rfl
  | ok e =>
    rw [ok_bind, getRulesByScope_eq ht]
    rfl

/-! ## Issues name their rules -/

theorem checkFieldRule_ruleId {checker : Checker} {known : Expression.Context} {p : Property}
    {value : Value} {rule : Rule} {i : Issue}
    (h : (checkFieldRule checker known p value rule).1 = some i) : i.ruleId = some rule.id := by
  rw [checkFieldRule] at h
  dsimp only at h
  rw [fieldIssue?.eq_def] at h
  split at h
  · cases h
  · cases h
    rfl
  · cases h
    rfl

theorem expressionIssue?_ruleId {limits : Expression.Limits} {known : Expression.Context}
    {level : Scope} {default : String} {rule : Rule} {i : Issue}
    (h : expressionIssue? limits known level default rule = some i) : i.ruleId = some rule.id := by
  rw [expressionIssue?] at h
  split at h
  · cases h
  · cases h
    rfl

end Validation

/-! ## What a further rule can add -/

/-- A rule can add an issue to a check of a record of an entity: it is in force, it is about that
entity and not about transitions, about a property of the entity if it is about a field, and it runs
on the event. -/
structure Rule.ConcernsRecords (r : Rule) (active : Bool) (e : Entity) (event : Option String) :
    Prop where
  active : active = true
  entity : r.entityId = e.id
  scope : r.scope ≠ .transition
  property : r.scope = .field → ∃ p ∈ e.properties, r.propertyName = some p.name
  event : r.triggerEvents = [] ∨ ∃ x, event = some x ∧ x ∈ r.triggerEvents

/-- A rule can add an issue to a check of a transition: it is in force, it is about transitions of
that entity, it runs before transitions, and it names this one or none. -/
structure Rule.ConcernsTransition (r : Rule) (active : Bool) (e : Entity) (u : Transition) :
    Prop where
  active : active = true
  entity : r.entityId = e.id
  scope : r.scope = .transition
  event : r.triggerEvents = [] ∨ Validation.transitionEvent ∈ r.triggerEvents
  names : ∀ v, r.metadata.get? "transitionId" = some v → v.isPresent = false ∨ v = .text u.id

namespace Validation

open Database

theorem triggered_of_appliesTo {r : Rule} {event : Option String} (h : r.appliesTo event = true) :
    r.triggerEvents = [] ∨ ∃ x, event = some x ∧ x ∈ r.triggerEvents := by
  cases event with
  | some x => exact (Workflow.appliesTo_iff.1 h).imp id fun hx => ⟨x, rfl, hx⟩
  | none =>
    rw [Rule.appliesTo, Bool.or_false, List.isEmpty_iff] at h
    exact Or.inl h

/-- What a rule says about transitions is the same once it is kept. -/
theorem names_of_isAbout {r : Rule} {metadata : Fields Value}
    (hkept : documentFields r.metadata = .ok metadata) {transitionId : String}
    (h : isAbout transitionId { r with metadata } = true) :
    ∀ v, r.metadata.get? "transitionId" = some v →
      v.isPresent = false ∨ v = .text transitionId := by
  intro v hv
  rcases documentFields_get? hkept "transitionId" with ⟨hnone, -⟩ | ⟨x, w, hx, hw, hkept⟩
  · rw [hv] at hnone
    cases hnone
  · rw [hv] at hx
    cases hx
    refine (Workflow.isAbout_iff.1 h w hkept).imp (fun hpresent => ?_) fun htext => ?_
    · rw [← Value.document_isPresent hw]
      exact hpresent
    · exact (Value.document_eq_text_iff hw).1 htext

section Gain

variable {t : Tables} (hk : t.Keyed) {s : StoredRule} (hs : (Insert.rule s).Fits t)
include hk hs

theorem rulesOfField_gains (entityId : String) (event : Option String) (p : Property) :
    Gains (fun r => s.rule.propertyName = some p.name ∧ r = s.rule ∧ s.active = true ∧
        s.rule.entityId = entityId ∧ s.rule.scope = .field ∧ s.rule.appliesTo event = true)
      (rulesOfField t entityId event p)
      (rulesOfField ((Insert.rule s).apply t) entityId event p) := by
  refine ((activeRules_gains hk hs _).filter _).mono ?_
  rintro r ⟨⟨rfl, hactive, hselects⟩, hevent⟩
  rw [Bool.and_eq_true, Bool.and_eq_true, beq_iff_eq, beq_iff_eq, beq_iff_eq] at hselects
  exact ⟨hselects.1.2, rfl, hactive, hselects.1.1, hselects.2, hevent⟩

theorem rulesOfScope_gains (entityId : String) (event : Option String) (scope : Scope) :
    Gains (fun r => r = s.rule ∧ s.active = true ∧ s.rule.entityId = entityId ∧
        s.rule.scope = scope ∧ s.rule.appliesTo event = true)
      (rulesOfScope t entityId event scope)
      (rulesOfScope ((Insert.rule s).apply t) entityId event scope) := by
  refine ((activeRules_gains hk hs _).filter _).mono ?_
  rintro r ⟨⟨rfl, hactive, hselects⟩, hevent⟩
  rw [Bool.and_eq_true, beq_iff_eq, beq_iff_eq] at hselects
  exact ⟨rfl, hactive, hselects.1, hselects.2, hevent⟩

theorem rulesOfTransition_gains (entityId transitionId : String) :
    Gains (fun r => r = s.rule ∧ s.active = true ∧ s.rule.entityId = entityId ∧
        s.rule.scope = .transition ∧ s.rule.appliesTo (some transitionEvent) = true ∧
        isAbout transitionId s.rule = true)
      (rulesOfTransition t entityId transitionId)
      (rulesOfTransition ((Insert.rule s).apply t) entityId transitionId) := by
  refine ((activeRules_gains hk hs _).filter _).mono ?_
  rintro r ⟨⟨rfl, hactive, hselects⟩, hruns⟩
  rw [Bool.and_eq_true, beq_iff_eq, beq_iff_eq] at hselects
  exact ⟨rfl, hactive, hselects.1, hselects.2, Bool.and_eq_true_iff.1 hruns⟩

/-- A further rule adds at most one issue to those of its own scope, and none to the others. -/
theorem issuesOfScope_gains (checker : Checker) (e : Entity) (data : Fields Value)
    (event : Option String) (previous : Option (Fields Value)) {scope : Scope}
    (hscope : scope ∈ recordScopes) :
    Gains (fun i => s.rule.scope = scope ∧ i.ruleId = some s.rule.id ∧
        s.rule.ConcernsRecords s.active e event)
      (issuesOfScope t checker e.id e data event previous scope)
      (issuesOfScope ((Insert.rule s).apply t) checker e.id e data event previous scope) := by
  have hexpression : ∀ {level : Scope} {default : String}, level ≠ .transition → level ≠ .field →
      Gains (fun i => s.rule.scope = level ∧ i.ruleId = some s.rule.id ∧
          s.rule.ConcernsRecords s.active e event)
        ((rulesOfScope t e.id event level).filterMap (expressionIssue? checker.limits
          (context e (some data) previous event) level default))
        ((rulesOfScope ((Insert.rule s).apply t) e.id event level).filterMap (expressionIssue?
          checker.limits (context e (some data) previous event) level default)) := by
    intro level default htransition hfield
    refine ((rulesOfScope_gains hk hs e.id event level).filterMap _).mono ?_
    rintro i ⟨r, ⟨rfl, hactive, hentity, rfl, hevent⟩, hi⟩
    exact ⟨rfl, expressionIssue?_ruleId hi, hactive, hentity, htransition,
      fun h => absurd h hfield, triggered_of_appliesTo hevent⟩
  cases scope with
  | entity => exact hexpression nofun nofun
  | crossEntity => exact hexpression nofun nofun
  | transition => simp [recordScopes] at hscope
  | field =>
    -- property names are unique, so the rule is about one property at most
    have hone : e.properties.Pairwise fun p q => s.rule.propertyName = some p.name →
        ¬ s.rule.propertyName = some q.name := by
      refine (List.pairwise_map.1 e.unique).imp fun hne hp hq => hne ?_
      rw [hp] at hq
      exact Option.some.inj hq
    have hfield : ∀ p ∈ e.properties, Gains (fun (i : Issue) => s.rule.propertyName = some p.name ∧
        i.ruleId = some s.rule.id ∧ s.active = true ∧ s.rule.entityId = e.id ∧
        s.rule.scope = .field ∧ s.rule.appliesTo event = true) _ _ := fun p _ =>
      ((rulesOfField_gains hk hs e.id event p).filterMap fun rule =>
        (checkFieldRule checker (context e (some data) previous event) p
          ((data.get? p.name).getD .null) rule).1).mono (by
        rintro i ⟨r, ⟨hname, rfl, hrest⟩, hi⟩
        exact ⟨hname, checkFieldRule_ruleId hi, hrest⟩)
    refine (Gains.flatMap hone hfield).mono ?_
    rintro i ⟨hproperty, hid, hactive, hentity, hscope, hevent⟩
    exact ⟨hscope, hid, hactive, hentity, by rw [hscope]; nofun, fun _ => hproperty,
      triggered_of_appliesTo hevent⟩

end Gain

/-! ## Entities -/

theorem findEntity_id {db : Database} {entityId : String} {e : Entity}
    (h : findEntity db entityId = .ok e) : e.id = entityId := by
  rw [findEntity, bind_eq_ok_iff] at h
  obtain ⟨found, hread, h⟩ := h
  obtain ⟨t, -, hfind⟩ := Database.read_eq_ok_iff.1 hread
  cases found with
  | none => cases h
  | some found =>
    cases h
    simpa using List.find?_some (Except.ok.inj hfind)

theorem tables_of_findEntity {db : Database} {entityId : String} {e : Entity}
    (h : findEntity db entityId = .ok e) : ∃ t, db.tables = some t := by
  obtain ⟨found, hread, -⟩ := bind_eq_ok_iff.1 h
  obtain ⟨t, ht, -⟩ := Database.read_eq_ok_iff.1 hread
  exact ⟨t, ht⟩

/-- A further rule makes no difference to the look-up of entities. -/
theorem findEntity_of_tables {db db' : Database} {t : Tables} {s : StoredRule}
    (ht : db.tables = some t) (ht' : db'.tables = some ((Insert.rule s).apply t))
    (entityId : String) : findEntity db' entityId = findEntity db entityId := by
  rw [findEntity, findEntity, Database.getEntity, Database.getEntity, Database.read, Database.read,
    Database.rows, Database.rows, ht, ht']
  rfl

end Validation

/-! ## The theorem -/

open Validation in
/-- **Rules do not interfere.**  When a rule is saved in a reachable system, then for every check,
whatever the rules are and whatever the registry has loaded so far:

* a check of a record finds the issues that it found before, in their order, and at most one more,
  which names the rule and is found only if the rule concerns the records of that entity on that
  event;
* a check of a transition does so, too, if the rule concerns that transition.

A check that fails for want of the entity fails as before. -/
theorem Reachable.saveRule_independent {s : System} {notes : List Note}
    (h : Reachable Step.Local s notes) {r : Rule} {active : Bool} {db' : Database}
    (hsave : s.database.saveRule r active = .ok db') :
    (∀ (checker : Checker) (entityId : String) (data : Fields Value) (event : Option String)
        (previous : Option (Fields Value)),
      GainsIssue
        (fun i => i.ruleId = some r.id ∧
          ∃ e, findEntity s.database entityId = .ok e ∧ r.ConcernsRecords active e event)
        ((recordIssues s.database checker entityId data event previous).map Prod.fst)
        ((recordIssues db' checker entityId data event previous).map Prod.fst)) ∧
      ∀ (limits : Expression.Limits) (entityId : String) (data : Fields Value) (u : Transition)
        (actor : Option String) (previous : Option (Fields Value)),
        GainsIssue
          (fun i => i.ruleId = some r.id ∧
            ∃ e, findEntity s.database entityId = .ok e ∧ r.ConcernsTransition active e u)
          (transitionIssues s.database limits entityId data u actor previous)
          (transitionIssues db' limits entityId data u actor previous) := by
  obtain ⟨metadata, hmetadata, t, ht, -, hfits, hdb'⟩ := Database.saveRule_ok hsave
  have ht' : db'.tables = some ((Insert.rule ⟨{ r with metadata }, active⟩).apply t) := by rw [hdb']
  have hk : t.Keyed := h.keyed (fun _ hrequest => hrequest) t ht
  refine ⟨fun checker entityId data event previous => ?_,
    fun limits entityId data u actor previous => ?_⟩
  · rw [recordIssues_eq ht, recordIssues_eq ht', findEntity_of_tables ht ht']
    cases he : findEntity s.database entityId with
    | error e => exact rfl
    | ok e =>
      obtain rfl := findEntity_id he
      have hgains := Gains.flatMap (p := fun scope => r.scope = scope)
        (List.Pairwise.imp (fun hne ha hb => hne (ha.symm.trans hb)) (by decide :
          recordScopes.Pairwise fun a b => a ≠ b))
        fun scope hscope => issuesOfScope_gains hk hfits checker e data event previous hscope
      refine hgains.mono ?_
      rintro i ⟨-, hid, hconcerns⟩
      exact ⟨hid, e, rfl, hconcerns.active, hconcerns.entity, hconcerns.scope, hconcerns.property,
        hconcerns.event⟩
  · rw [transitionIssues_eq ht, transitionIssues_eq ht', findEntity_of_tables ht ht']
    cases he : findEntity s.database entityId with
    | error e => exact rfl
    | ok e =>
      obtain rfl := findEntity_id he
      refine ((((rulesOfTransition_gains hk hfits e.id u.id).filterMap _).append_left _).mono ?_)
      rintro i ⟨x, ⟨rfl, hactive, hentity, hscope, hevent, habout⟩, hi⟩
      exact ⟨expressionIssue?_ruleId hi, e, rfl, hactive, hentity, hscope,
        Workflow.appliesTo_iff.1 hevent, names_of_isAbout hmetadata habout⟩

/-! Letters have an author and a title, and the title is required; a further rule asks a validator
about the author that there is not. -/

namespace Letter

def property (name : String) : Property :=
  { name, type := .string, label := none, required := false, readOnly := false, denormalize := false
    calculation := none, metadata := [] }

def letter : Entity :=
  { id := "letter", name := "Letter", properties := [property "author", property "title"]
    workflowId := none, unique := by decide }

/-- A rule about a property of letters. -/
def rule (id propertyName : String) (kind : RuleType) (metadata : Fields Value) : Rule :=
  { id, entityId := "letter", propertyName := some propertyName, name := id, scope := .field
    type := kind, expression := none, errorMessage := none, errorMessageKey := none
    triggerEvents := ["CREATE"], metadata }

def setUp : List Step :=
  [.operation (.saveEntity letter),
   .operation (.saveRule (rule "titled" "title" .required []) true)]

/-- The validator of the rule is in no module. -/
def known : Rule := rule "known" "author" .custom [("validator", .text "no.such")]

/-- The rules that find fault with a letter without a title. -/
def faulted (db : Database) : Option (List (Option String)) :=
  (Validation.recordIssues db {} "letter" [] (some "CREATE") none).toOption.map fun found =>
    found.1.map Issue.ruleId

end Letter

open Validation in
/-- The rule that cannot be checked adds its issue, and that of the other one is still there. -/
theorem saveRule_independent_letter :
    ∃ s notes db', Reachable Step.Local s notes ∧
      s.database.saveRule Letter.known true = .ok db' ∧
      Letter.faulted s.database = some [some "titled"] ∧
      Letter.faulted db' = some [some "known", some "titled"] ∧
      GainsIssue
        (fun i => i.ruleId = some "known" ∧ ∃ e, findEntity s.database "letter" = .ok e ∧
          Letter.known.ConcernsRecords true e (some "CREATE"))
        ((recordIssues s.database {} "letter" [] (some "CREATE") none).map Prod.fst)
        ((recordIssues db' {} "letter" [] (some "CREATE") none).map Prod.fst) := by
  have hreachable : Reachable Step.Local (runAll {} Letter.setUp).2 _ :=
    .of_run ⟨trivial, trivial, trivial⟩
  have hsaved : ((runAll {} Letter.setUp).2.database.saveRule Letter.known true).toOption.any
      (fun db' => Letter.faulted (runAll {} Letter.setUp).2.database == some [some "titled"] &&
        Letter.faulted db' == some [some "known", some "titled"]) = true := by decide +kernel
  obtain ⟨db', hdb', hfaulted⟩ := (Option.any_eq_true _ _).1 hsaved
  rw [Bool.and_eq_true, beq_iff_eq, beq_iff_eq] at hfaulted
  have hsave : (runAll {} Letter.setUp).2.database.saveRule Letter.known true = .ok db' := by
    cases h : (runAll {} Letter.setUp).2.database.saveRule Letter.known true with
    | error e => rw [h] at hdb'; cases hdb'
    | ok db => rw [h] at hdb'; cases hdb'; rfl
  exact ⟨_, _, db', hreachable, hsave, hfaulted.1, hfaulted.2,
    (hreachable.saveRule_independent hsave).1 {} "letter" [] (some "CREATE") none⟩

end RecordRules
