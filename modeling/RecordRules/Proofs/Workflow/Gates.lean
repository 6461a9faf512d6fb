import RecordRules.Workflow.Execute
import RecordRules.Proofs.Store.Statements

/-!
# The gates of a transition

What has to hold for a move to be made, said about the rows of the tables, and for every step of
`Workflow.execute` that can refuse a move when it does not.

* `Located`: entity, workflow, transition and record belong together; `plan_eq_ok_iff`.
* `Tables.Holds`: an actor holds one of some roles; `authorize_eq_ok_iff`.
* `Met`: the conditions of the transition and the rules about it hold; `checkRules_eq_ok_iff`.
* `Allowed` is all of that together with the right source state.
-/

set_option autoImplicit false

namespace RecordRules

/-! ## Where a record stands -/

namespace Record

/-- Whether a state is missing or empty, so that the initial one takes its place. -/
def unset (state : Option String) : Bool := (state.getD "").isEmpty

variable {state : Option String} {w : Workflow}

theorem currentState_defaulted : (currentState state w).defaulted = unset state := by
  cases state with
  | none => rfl
  | some s => cases h : s.isEmpty <;> simp [currentState, unset, h]

theorem currentState_of_unset (h : unset state = true) :
    (currentState state w).state = w.initialState := by
  cases state with
  | none => rfl
  | some s =>
    rw [unset, Option.getD_some] at h
    simp [currentState, h]

theorem currentState_of_set (h : unset state = false) :
    state = some (currentState state w).state := by
  cases state with
  | none => cases h
  | some s =>
    rw [unset, Option.getD_some] at h
    simp [currentState, h]

end Record

/-! ## Roles -/

/-- An actor with a name holds one of some roles. -/
def Tables.Holds (t : Tables) (actor : Option String) (roles : List String) : Prop :=
  ∃ name, actor = some name ∧ name ≠ "" ∧ ∃ role ∈ roles, (name, role) ∈ t.roles

theorem Database.hasAnyRole_eq {db : Database} {t : Tables} (ht : db.tables = some t)
    {actor : Option String} {roles : List String} {held : Bool} :
    db.hasAnyRole actor roles = .ok held → (held = true ↔ t.Holds actor roles) := by
  rw [hasAnyRole.eq_def, Tables.Holds]
  cases actor with
  | none => rintro ⟨⟩; simp
  | some name =>
    dsimp only
    split
    · rename_i hnone
      rintro ⟨⟩
      rcases Bool.or_eq_true_iff.1 hnone with hname | hroles
      · simp [String.isEmpty_iff.1 hname]
      · simp [List.isEmpty_iff.1 hroles]
    · rename_i hsome
      rw [Bool.or_eq_true, not_or, String.isEmpty_iff] at hsome
      intro hread
      obtain ⟨u, hu, h⟩ := read_eq_ok_iff.1 hread
      rw [ht] at hu
      cases hu
      cases h
      simp only [List.any_eq_true, Prod.exists, Bool.and_eq_true, beq_iff_eq, List.contains_iff_mem,
        Option.some.injEq]
      constructor
      · rintro ⟨_, role, hmem, rfl, hrole⟩
        exact ⟨_, rfl, hsome.1, role, hrole, hmem⟩
      · rintro ⟨_, rfl, -, role, hrole, hmem⟩
        exact ⟨_, role, hmem, rfl, hrole⟩

/-- With the tables in place, the question for roles has an answer. -/
theorem Database.hasAnyRole_isOk {db : Database} {t : Tables} (ht : db.tables = some t)
    (actor : Option String) (roles : List String) :
    ∃ held, db.hasAnyRole actor roles = .ok held := by
  rw [hasAnyRole.eq_def]
  cases actor with
  | none => exact ⟨false, rfl⟩
  | some name =>
    dsimp only
    split
    · exact ⟨false, rfl⟩
    · exact ⟨_, read_eq_ok_iff.2 ⟨t, ht, rfl⟩⟩

namespace Workflow

/-! ## Looking up -/

/-- The entity, the workflow and the transition of a move, and its record: the entity is attached to
the workflow, which owns the transition, and the record belongs to the entity. -/
structure Located (t : Tables) (m : Move) (p : Plan) (r : Record) : Prop where
  entity : p.entity ∈ t.entities
  entityId : p.entity.id = m.entityId
  attached : p.entity.workflowId = some p.workflow.id
  /-- An empty id attaches an entity to nothing. -/
  named : p.workflow.id ≠ ""
  workflow : p.workflow ∈ t.workflows
  record : r ∈ t.records
  recordEntity : r.entityId = m.entityId
  recordId : r.id = m.recordId
  transition : p.transition ∈ p.workflow.transitions
  transitionId : p.transition.id = m.transitionId

theorem attached?_eq_some_iff {e : Entity} {id : String} :
    attached? e = some id ↔ e.workflowId = some id ∧ id ≠ "" := by
  rw [attached?]
  cases e.workflowId with
  | none => simp
  | some other =>
    dsimp only
    split
    · rename_i h
      rw [String.isEmpty_iff] at h
      simp [h]
    · rename_i h
      rw [String.isEmpty_iff] at h
      constructor
      · rintro ⟨⟩
        exact ⟨rfl, h⟩
      · rintro ⟨h', -⟩
        exact h'

section Lookup

variable {db : Database} {t : Tables} (ht : db.tables = some t) (hk : t.Keyed)
include ht hk

theorem findEntity_eq_ok_iff {id : String} {e : Entity} :
    Validation.findEntity db id = .ok e ↔ e ∈ t.entities ∧ e.id = id := by
  have hget : db.getEntity id = .ok (t.entities.find? fun e => e.id == id) :=
    Database.read_eq_ok_iff.2 ⟨t, ht, rfl⟩
  rw [Validation.findEntity, hget, ok_bind, ← find?_key_eq_some_iff hk.entities]
  cases t.entities.find? fun e => e.id == id <;> simp

theorem find_eq_ok_iff {id : String} {w : Workflow} :
    find db id = .ok w ↔ w ∈ t.workflows ∧ w.id = id := by
  have hget : db.getWorkflow id = .ok (t.workflows.find? fun w => w.id == id) :=
    Database.read_eq_ok_iff.2 ⟨t, ht, rfl⟩
  rw [find, hget, ok_bind, ← find?_key_eq_some_iff hk.workflows]
  cases t.workflows.find? fun w => w.id == id <;> simp

theorem getTransition_eq_ok_some_iff {id : String} {u : Transition} :
    db.getTransition id = .ok (some u) ↔ u ∈ Database.allTransitions t ∧ u.id = id := by
  rw [Database.getTransition, Database.read_eq_ok_iff, ← find?_key_eq_some_iff hk.transitions]
  constructor
  · rintro ⟨t', ht', h⟩
    rw [ht] at ht'
    cases ht'
    exact Except.ok.inj h
  · intro h
    exact ⟨t, ht, congrArg Except.ok h⟩

theorem getRecord_eq_ok_some_iff {entityId recordId : String} {r : Record} :
    db.getRecord entityId recordId = .ok (some r) ↔
      r ∈ t.records ∧ r.entityId = entityId ∧ r.id = recordId := by
  rw [Database.getRecord, Database.read_eq_ok_iff, ← hk.record?_eq_some_iff]
  constructor
  · rintro ⟨t', ht', h⟩
    rw [ht] at ht'
    cases ht'
    exact Except.ok.inj h
  · intro h
    exact ⟨t, ht, congrArg Except.ok h⟩

/-- A move has a plan exactly if everything that it is about is there and belongs together. -/
theorem plan_eq_ok_iff {m : Move} {p : Plan} : plan db m = .ok p ↔ ∃ r, Located t m p r := by
  rw [plan, bind_eq_ok_iff]
  constructor
  · rintro ⟨e, he, h⟩
    obtain ⟨hmem, hid⟩ := (findEntity_eq_ok_iff ht hk).1 he
    cases hattached : attached? e with
    | none => rw [hattached] at h; cases h
    | some workflowId =>
      rw [hattached] at h
      obtain ⟨found, hfound, h⟩ := bind_eq_ok_iff.1 h
      cases found with
      | none => cases h
      | some r =>
        obtain ⟨w, hw, h⟩ := bind_eq_ok_iff.1 h
        obtain ⟨known, hknown, h⟩ := bind_eq_ok_iff.1 h
        cases known with
        | none => cases h
        | some u =>
          dsimp only at h
          split at h
          · rename_i howned
            cases h
            obtain ⟨hr, hre, hri⟩ := (getRecord_eq_ok_some_iff ht hk).1 hfound
            obtain ⟨hwmem, rfl⟩ := (find_eq_ok_iff ht hk).1 hw
            obtain ⟨hu, hui⟩ := (getTransition_eq_ok_some_iff ht hk).1 hknown
            obtain ⟨hwid, hne⟩ := attached?_eq_some_iff.1 hattached
            exact ⟨r, hmem, hid, hwid, hne, hwmem, hr, hre, hri,
              hk.mem_transitions hwmem hu (beq_iff_eq.1 howned), hui⟩
          · cases h
  · rintro ⟨r, h⟩
    refine ⟨p.entity, (findEntity_eq_ok_iff ht hk).2 ⟨h.entity, h.entityId⟩, ?_⟩
    have hu : p.transition ∈ Database.allTransitions t :=
      List.mem_flatMap.2 ⟨p.workflow, h.workflow, h.transition⟩
    rw [attached?_eq_some_iff.2 ⟨h.attached, h.named⟩]
    dsimp only
    rw [(getRecord_eq_ok_some_iff ht hk).2 ⟨h.record, h.recordEntity, h.recordId⟩, ok_bind]
    dsimp only
    rw [(find_eq_ok_iff ht hk).2 ⟨h.workflow, rfl⟩, ok_bind,
      (getTransition_eq_ok_some_iff ht hk).2 ⟨hu, h.transitionId⟩, ok_bind]
    dsimp only
    rw [if_pos (beq_iff_eq.2 (hk.owned p.workflow h.workflow p.transition h.transition))]
    rfl

end Lookup

/-- There is only one thing that a move can be about. -/
theorem Located.unique {t : Tables} (hk : t.Keyed) {m : Move} {p q : Plan} {r s : Record}
    (h : Located t m p r) (h' : Located t m q s) : p = q ∧ r = s := by
  refine ⟨?_, List.inj_on_of_nodup_map hk.records h.record h'.record
    (h.recordId.trans h'.recordId.symm)⟩
  have ht : ({ tables := some t } : Database).tables = some t := rfl
  have hplan := (plan_eq_ok_iff ht hk).2 ⟨r, h⟩
  rw [(plan_eq_ok_iff ht hk).2 ⟨s, h'⟩] at hplan
  exact (Except.ok.inj hplan).symm

/-- What is located stays so while the tables grow; the record is there in its latest form. -/
theorem Located.mono {t u : Tables} {m : Move} {p : Plan} {r s : Record} (h : Located t m p r)
    (hgrows : t.Grows u) (hs : s ∈ u.records) (hrs : r.Precedes s) : Located u m p s :=
  { h with
    entity := hgrows.entities.subset h.entity
    workflow := hgrows.workflows.subset h.workflow
    record := hs
    recordEntity := hrs.entityId.trans h.recordEntity
    recordId := hrs.id.trans h.recordId }

/-! ## Roles -/

/-- The actor may make the transition: anybody may if it asks for no roles. -/
def Authorized (t : Tables) (actor : Option String) (u : Transition) : Prop :=
  u.allowedRoles.getD [] = [] ∨ t.Holds actor (u.allowedRoles.getD [])

theorem isRestricted_eq_false_iff {u : Transition} :
    u.isRestricted = false ↔ u.allowedRoles.getD [] = [] := by
  rw [Transition.isRestricted, Bool.not_eq_false', List.isEmpty_iff]

theorem authorize_eq_ok_iff {db : Database} {t : Tables} (ht : db.tables = some t) {m : Move}
    {u : Transition} : authorize db m u = .ok () ↔ Authorized t m.actor u := by
  rw [authorize, Authorized]
  cases hrestricted : u.isRestricted with
  | false => simp [isRestricted_eq_false_iff.1 hrestricted]
  | true =>
    have hroles : u.allowedRoles.getD [] ≠ [] := fun h => by
      rw [isRestricted_eq_false_iff.2 h] at hrestricted
      cases hrestricted
    obtain ⟨held, hheld⟩ := Database.hasAnyRole_isOk ht m.actor (u.allowedRoles.getD [])
    have hiff := Database.hasAnyRole_eq ht hheld
    rw [if_pos rfl, hheld, ok_bind, or_iff_right hroles, ← hiff]
    cases held <;> simp

/-! ## Conditions and rules -/

/-- What a condition of a transition can refer to: the data of the record and the circumstances of
the move. -/
def scene (e : Entity) (data : Fields Value) (u : Transition) (actor : Option String) :
    Expression.Context :=
  Validation.transitionContext
    (Validation.context e (some data) none (some Validation.transitionEvent)) u actor

/-- The rule stands between the records of an entity and a transition: it is in force, it is about
transitions and runs when one is made, and it names this transition or none. -/
structure Guards (s : StoredRule) (entityId transitionId : String) : Prop where
  active : s.active = true
  entity : s.rule.entityId = entityId
  scope : s.rule.scope = .transition
  event : s.rule.triggerEvents = [] ∨ Validation.transitionEvent ∈ s.rule.triggerEvents
  names : ∀ v, s.rule.metadata.get? "transitionId" = some v →
    v.isPresent = false ∨ v = .text transitionId

/-- The conditions of a transition hold for the data of a record, and so do the expressions of all
rules that guard it. -/
structure Met (limits : Expression.Limits) (t : Tables) (e : Entity) (data : Fields Value)
    (u : Transition) (actor : Option String) : Prop where
  conditions : ∀ c ∈ u.conditions.getD [],
    Expression.holds limits (scene e data u actor) c = true
  rules : ∀ s ∈ t.rules, Guards s e.id u.id → ∀ x, s.rule.expression = some x → x ≠ "" →
    Expression.holds limits (scene e data u actor) x = true

theorem appliesTo_iff {r : Rule} {event : String} :
    r.appliesTo (some event) = true ↔ r.triggerEvents = [] ∨ event ∈ r.triggerEvents := by
  rw [Rule.appliesTo, Bool.or_eq_true, List.isEmpty_iff, List.contains_iff_mem]

theorem isAbout_iff {transitionId : String} {r : Rule} :
    Validation.isAbout transitionId r = true ↔ ∀ v, r.metadata.get? "transitionId" = some v →
      v.isPresent = false ∨ v = .text transitionId := by
  rw [Validation.isAbout.eq_def]
  cases r.metadata.get? "transitionId" with
  | none => simp
  | some v => cases v <;> simp [Value.isPresent]

theorem mem_activeRules {t : Tables} {selects : Rule → Bool} {r : Rule} :
    r ∈ Database.activeRules t selects ↔
      ∃ s ∈ t.rules, s.active = true ∧ selects s.rule = true ∧ s.rule = r := by
  rw [Database.activeRules, List.mem_mergeSort, List.mem_filterMap]
  refine exists_congr fun s => and_congr_right fun _ => ?_
  cases s.active <;> cases selects s.rule <;> simp

theorem conditionIssue?_eq_none_iff {limits : Expression.Limits} {context : Expression.Context}
    {condition : String} :
    Validation.conditionIssue? limits context condition = none ↔
      Expression.holds limits context condition = true := by
  rw [Validation.conditionIssue?]
  split <;> simp_all

theorem expressionIssue?_eq_none_iff {limits : Expression.Limits} {context : Expression.Context}
    {level : Scope} {default : String} {r : Rule} :
    Validation.expressionIssue? limits context level default r = none ↔
      ∀ x, r.expression = some x → x ≠ "" → Expression.holds limits context x = true := by
  rw [Validation.expressionIssue?]
  cases r.expression with
  | none => simp
  | some x =>
    simp only [Option.getD_some, Option.some.injEq, forall_eq']
    by_cases hx : x = ""
    · simp [hx]
    · by_cases hh : Expression.holds limits context x = true <;> simp [hx, hh]

/-- The check of a transition finds nothing exactly if its conditions and rules are met. -/
theorem transitionIssues_eq_nil_iff {db : Database} {t : Tables} (ht : db.tables = some t)
    (hk : t.Keyed) (limits : Expression.Limits) {e : Entity} (he : e ∈ t.entities)
    (data : Fields Value) (u : Transition) (actor : Option String) :
    ∃ issues, Validation.transitionIssues db limits e.id data u actor none = .ok issues ∧
      (issues = [] ↔ Met limits t e data u actor) := by
  have hrules : db.getRulesByScope e.id .transition = .ok (Database.activeRules t fun r =>
      r.entityId == e.id && r.scope == .transition) :=
    Database.read_eq_ok_iff.2 ⟨t, ht, rfl⟩
  rw [Validation.transitionIssues, (findEntity_eq_ok_iff ht hk).2 ⟨he, rfl⟩, ok_bind, hrules]
  refine ⟨_, rfl, ?_⟩
  rw [List.append_eq_nil_iff, List.filterMap_eq_nil_iff, List.filterMap_eq_nil_iff]
  constructor
  · rintro ⟨hconditions, hbroken⟩
    refine ⟨fun c hc => conditionIssue?_eq_none_iff.1 (hconditions c hc), fun s hs hguards => ?_⟩
    refine expressionIssue?_eq_none_iff.1 (hbroken s.rule (List.mem_filter.2 ⟨?_, ?_⟩))
    · refine mem_activeRules.2 ⟨s, hs, hguards.active, ?_, rfl⟩
      rw [hguards.entity, hguards.scope, beq_self_eq_true, beq_self_eq_true, Bool.and_true]
    · rw [appliesTo_iff.2 hguards.event, isAbout_iff.2 hguards.names, Bool.and_true]
  · rintro ⟨hconditions, hmet⟩
    refine ⟨fun c hc => conditionIssue?_eq_none_iff.2 (hconditions c hc), fun r hr => ?_⟩
    obtain ⟨hactive, hruns⟩ := List.mem_filter.1 hr
    obtain ⟨s, hs, hs', hselects, rfl⟩ := mem_activeRules.1 hactive
    rw [Bool.and_eq_true, beq_iff_eq, beq_iff_eq] at hselects
    rw [Bool.and_eq_true, appliesTo_iff, isAbout_iff] at hruns
    exact expressionIssue?_eq_none_iff.2
      (hmet s hs ⟨hs', hselects.1, hselects.2, hruns.1, hruns.2⟩)

theorem checkRules_eq_ok_iff {db : Database} {t : Tables} (ht : db.tables = some t) (hk : t.Keyed)
    {limits : Expression.Limits} {m : Move} {o : Opened} (he : o.plan.entity ∈ t.entities) :
    checkRules db limits m o = .ok () ↔
      Met limits t o.plan.entity o.record.data o.plan.transition m.actor := by
  obtain ⟨issues, hissues, hiff⟩ :=
    transitionIssues_eq_nil_iff ht hk limits he o.record.data o.plan.transition m.actor
  rw [checkRules, hissues, ok_bind, ← hiff]
  cases issues <;> simp

/-! ## All gates -/

/-- Everything that has to hold for a move to be made: what it is about is there, the transition
starts where the record stands, the actor may make it, and its conditions and rules are met. -/
structure Allowed (limits : Expression.Limits) (t : Tables) (m : Move) (p : Plan) (r : Record) :
    Prop where
  located : Located t m p r
  source : p.transition.fromState = (Record.currentState r.state p.workflow).state
  authorized : Authorized t m.actor p.transition
  met : Met limits t p.entity r.data p.transition m.actor

end Workflow
end RecordRules
