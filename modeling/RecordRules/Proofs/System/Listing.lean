import RecordRules.Proofs.System.Definitions
import RecordRules.Proofs.System.Exactness

/-!
# What is listed can be made

`Workflow.available` picks the transitions of a workflow that start where a record stands, without
looking at anything else.  `Workflow.execute` looks a transition up among those of all workflows,
compares its owner and then its source with what a transaction has loaded.  The two agree.

* `Governed`: a record belongs to an entity that is attached to a workflow, and `departures` are the
  transitions of the workflow that start where the record stands.
* `execute_of_mem_departures`: along one of them a move fails only because of its actor or because
  of conditions and rules, or if its audit entry cannot be written.
* `execute_of_not_mem_departures`: along any other transition it is `Misdirected`.
* `Reachable.workflow_sorted`: the store keeps the transitions of a workflow in the order of their
  ids.
* `Reachable.mem_available_iff` is the theorem, in every system that runs of the library lead to.
-/

set_option autoImplicit false

namespace RecordRules

/-! ## Order -/

/-- The store keeps the transitions of a workflow in the order of their ids. -/
theorem Workflow.stored_sorted {w w' : Workflow} (h : w.stored = .ok w') :
    w'.transitions.Pairwise fun a b => a.id ≤ b.id := by
  obtain ⟨us, -, h⟩ := bind_eq_ok_iff.1 h
  cases h
  refine (List.pairwise_mergeSort (fun a b c hab hbc => ?_) (fun a b => ?_) us.1).imp
    of_decide_eq_true
  · exact decide_eq_true (String.le_trans (of_decide_eq_true hab) (of_decide_eq_true hbc))
  · rw [Bool.or_eq_true, decide_eq_true_iff, decide_eq_true_iff]
    exact String.le_total a.id b.id

theorem Operation.MayAdd.workflow_sorted {o : Operation} {w : Workflow} (h : o.MayAdd (.workflow w))
    (hsample : o ≠ .loadSample) : w.transitions.Pairwise fun a b => a.id ≤ b.id := by
  cases h with
  | workflow h => exact Workflow.stored_sorted h
  | sample _ _ => exact absurd rfl hsample

/-- Transitions stand in the order of their ids in every workflow of a reachable system, and no two
of them share an id. -/
theorem Reachable.workflow_sorted {p : Step → Prop} (hp : ∀ r, ¬ p (.request r)) {s : System}
    {notes : List Note} (h : Reachable p s notes) {t : Tables} (ht : s.database.tables = some t)
    {w : Workflow} (hw : w ∈ t.workflows) : w.transitions.Pairwise fun a b => a.id < b.id := by
  obtain ⟨o, -, hsample, hadd⟩ := h.stands hp ht (i := .workflow w) hw
  have hkeyed : ((Database.allTransitions t).map Transition.id).Nodup :=
    (h.keyed hp t ht).transitions
  rw [Database.allTransitions, List.map_flatMap, List.nodup_flatMap] at hkeyed
  have hdistinct : w.transitions.Pairwise fun a b => a.id ≠ b.id :=
    List.pairwise_map.1 (hkeyed.1 w hw)
  refine ((hadd.workflow_sorted hsample).and hdistinct).imp fun {a b} hab => ?_
  exact String.not_le.1 fun hba => hab.2 (String.le_antisymm hab.1 hba)

namespace Workflow

/-! ## Departures -/

/-- The transitions of a workflow that start where a record stands. -/
def departures (w : Workflow) (r : Record) : List Transition :=
  w.transitions.filter fun u => u.fromState == (Record.currentState r.state w).state

theorem mem_departures {w : Workflow} {r : Record} {u : Transition} :
    u ∈ w.departures r ↔
      u ∈ w.transitions ∧ u.fromState = (Record.currentState r.state w).state := by
  rw [departures, List.mem_filter, beq_iff_eq]

/-- A record belongs to an entity, and the entity is attached to a workflow. -/
structure Governed (t : Tables) (e : Entity) (w : Workflow) (r : Record) : Prop where
  entity : e ∈ t.entities
  attached : e.workflowId = some w.id
  workflow : w ∈ t.workflows
  record : r ∈ t.records
  recordEntity : r.entityId = e.id

/-- A move is turned away because of what it is about: there is no such transition, or it belongs to
another workflow, or it starts elsewhere. -/
def Misdirected (e : Failure) : Prop :=
  e.IsOf .notFound ∨ e.IsOf .invalidTransition ∨ e.IsOf .illegalState

/-- A move is turned away at its gates: the actor lacks a role, or conditions or rules are not
met. -/
def Barred (e : Failure) : Prop := e.IsOf .forbidden ∨ e.IsOf .transitionValidation

theorem Barred.not_misdirected {e : Failure} (h : Barred e) : ¬ Misdirected e := by
  rintro (h' | h' | h') <;> rcases h with h | h <;> cases h.unique h'

/-- What a transaction fails with does not tell what a move is about. -/
theorem not_misdirected_failure (tx : Transaction) (e : TransactionError) :
    ¬ Misdirected (tx.failure e) := by
  have hkind : (tx.failure e).IsOf .storage ∨ (tx.failure e).IsOf .conflict ∨
      ∃ mishap, tx.failure e = .mishap mishap := by
    cases e with
    | refused r =>
      cases r with
      | integerTooWide => exact .inr (.inr ⟨_, rfl⟩)
      | unwritable problem => exact .inr (.inr ⟨_, rfl⟩)
      | _ => exact .inl ⟨_, rfl, rfl⟩
    | stale => exact .inr (.inl ⟨_, rfl, Fault.of_kind _ _ _⟩)
    | notLoaded recordId => exact .inl ⟨_, rfl, rfl⟩
  rintro (h | h | h) <;> rcases hkind with hkind | hkind | ⟨mishap, hmishap⟩
  all_goals first
    | cases h.unique hkind
    | obtain ⟨fault, hfault, -⟩ := h; rw [hmishap] at hfault; cases hfault

/-! ## Failures at the gates -/

section Gates

variable {t : Tables} (hk : t.Keyed) {m : Move} {f : Failure}

/-- Whoever lacks a role is told so. -/
theorem authorize_error {db : Database} (ht : db.tables = some t) {u : Transition}
    (h : authorize db m u = .error f) : f.IsOf .forbidden := by
  obtain ⟨held, hheld⟩ := Database.hasAnyRole_isOk ht m.actor (u.allowedRoles.getD [])
  rw [authorize, hheld, ok_bind] at h
  cases hrestricted : u.isRestricted with
  | false =>
    rw [hrestricted] at h
    cases h
  | true =>
    rw [hrestricted] at h
    cases held with
    | true => cases h
    | false =>
      cases h
      exact ⟨_, rfl, Fault.of_kind _ _ _⟩

include hk

/-- A move whose conditions and rules are not met is told so. -/
theorem checkRules_error {db : Database} (ht : db.tables = some t) {limits : Expression.Limits}
    {o : Opened} (he : o.plan.entity ∈ t.entities) (h : checkRules db limits m o = .error f) :
    f.IsOf .transitionValidation := by
  obtain ⟨issues, hissues, -⟩ :=
    transitionIssues_eq_nil_iff ht hk limits he o.record.data o.plan.transition m.actor
  rw [checkRules, hissues, ok_bind] at h
  split at h
  · cases h
  · cases h
    exact ⟨_, rfl, Fault.of_kind _ _ _⟩

theorem cleared_error {v : System} (ht : v.database.tables = some t) {o : Opened}
    (he : o.plan.entity ∈ t.entities) (h : cleared v m o = .error f) : Barred f := by
  rw [cleared] at h
  cases hauthorized : authorize v.database m o.plan.transition with
  | error e =>
    rw [hauthorized] at h
    cases h
    exact Or.inl (authorize_error ht hauthorized)
  | ok _ =>
    rw [hauthorized] at h
    exact Or.inr (checkRules_error hk ht he h)

omit hk in
theorem complete_error {db : Database} {savedAt performedAt : Moment} {o : Opened}
    (h : complete db savedAt m o performedAt = .error f) :
    ∃ (tx : Transaction) (e : TransactionError), f = tx.failure e := by
  rw [complete] at h
  cases hsave : o.tx.saveState db m.recordId o.plan.transition.toState m.actor savedAt with
  | error e =>
    rw [hsave] at h
    cases h
    exact ⟨_, e, rfl⟩
  | ok done =>
    obtain ⟨record, tx, db₁⟩ := done
    rw [hsave, mapError_ok, ok_bind] at h
    dsimp only at h
    cases hentry : tx.appendAudit db₁ (auditEntry m o performedAt) with
    | error e =>
      rw [hentry] at h
      cases h
      exact ⟨_, e, rfl⟩
    | ok done =>
      rw [hentry] at h
      cases h

/-- With nobody else writing, a move that has come to its gates fails only there, or if its audit
entry cannot be written. -/
theorem finish_error {s v : System} (ht : s.database.tables = some t)
    (hfree : s.database.locked = false) {p : Plan} {r : Record} {openedAt : Moment}
    (hloc : Located t m p r) (hv : v.database = held s.database (opened t m p r openedAt))
    (h : (finish v m (opened t m p r openedAt)).1 = .error f) :
    Barred f ∨ ¬ Writable m p r ∧ ¬ Misdirected f := by
  have htv : v.database.tables = some t := by rw [hv, held_tables, ht]
  have he : (opened t m p r openedAt).plan.entity ∈ t.entities := by
    rw [opened_plan]
    exact hloc.entity
  cases hcleared : cleared v m (opened t m p r openedAt) with
  | error e =>
    rw [finish_eq, hcleared] at h
    cases h
    exact .inl (cleared_error hk htv he hcleared)
  | ok _ =>
    have hgates := (cleared_eq_ok_iff htv hk he).1 hcleared
    rw [opened_plan, opened_data] at hgates
    refine .inr ⟨fun hwritable => ?_, ?_⟩
    · obtain ⟨result, hok⟩ :=
        (finish_exact ht hk hfree hloc hv).1.2 ⟨hgates.1, hgates.2, hwritable⟩
      rw [hok] at h
      cases h
    · rw [finish_eq, hcleared] at h
      dsimp only at h
      cases hcomplete : complete v.database v.now m (opened t m p r openedAt)
          (.ofClock v.clock) with
      | error e =>
        rw [hcomplete] at h
        cases h
        obtain ⟨tx, e, rfl⟩ := complete_error hcomplete
        exact not_misdirected_failure tx e
      | ok done =>
        rw [hcomplete] at h
        cases h

end Gates

/-! ## What is listed -/

section Governed

variable {t : Tables} {e : Entity} {w : Workflow} {r : Record}

/-- What is listed for a record are the departures from where it stands. -/
theorem available_eq {db : Database} (ht : db.tables = some t) (hk : t.Keyed)
    (hgoverned : Governed t e w r) (hnamed : w.id ≠ "") :
    available db e.id r.id = .ok ((w.departures r).map AvailableTransition.ofTransition) := by
  have hworkflow : db.getWorkflow w.id = .ok (some w) := Database.read_eq_ok_iff.2
    ⟨t, ht, congrArg Except.ok ((find?_key_eq_some_iff hk.workflows).2 ⟨hgoverned.workflow, rfl⟩)⟩
  rw [available, (findEntity_eq_ok_iff ht hk).2 ⟨hgoverned.entity, rfl⟩, ok_bind,
    attached?_eq_some_iff.2 ⟨hgoverned.attached, hnamed⟩]
  dsimp only
  rw [(getRecord_eq_ok_some_iff ht hk).2 ⟨hgoverned.record, hgoverned.recordEntity, rfl⟩, ok_bind]
  dsimp only
  rw [hworkflow]
  rfl

/-- The ids of the transitions that are listed. -/
theorem map_id_ofTransition (us : List Transition) :
    (us.map AvailableTransition.ofTransition).map AvailableTransition.id =
      us.map Transition.id := by
  rw [List.map_map]
  rfl

/-! ## What can be made -/

variable {m : Move} (hentity : m.entityId = e.id) (hrecord : m.recordId = r.id)
include hentity hrecord

/-- A move along a transition of the workflow has all that it needs. -/
theorem Governed.located (hgoverned : Governed t e w r) (hnamed : w.id ≠ "") {u : Transition}
    (hu : u ∈ w.transitions) (hid : u.id = m.transitionId) : Located t m ⟨e, w, u⟩ r where
  entity := hgoverned.entity
  entityId := hentity.symm
  attached := hgoverned.attached
  named := hnamed
  workflow := hgoverned.workflow
  record := hgoverned.record
  recordEntity := hgoverned.recordEntity.trans hentity.symm
  recordId := hrecord.symm
  transition := hu
  transitionId := hid

/-- Whether a request to move the record has a plan depends on its transition only. -/
theorem plan_cases {db : Database} (ht : db.tables = some t) (hk : t.Keyed)
    (hgoverned : Governed t e w r) (hnamed : w.id ≠ "") :
    (∃ u ∈ w.transitions, u.id = m.transitionId ∧ plan db m = .ok ⟨e, w, u⟩) ∨
      ∃ f, plan db m = .error f ∧ (f.IsOf .notFound ∨ f.IsOf .invalidTransition) := by
  by_cases hown : ∃ u ∈ w.transitions, u.id = m.transitionId
  · obtain ⟨u, hu, hid⟩ := hown
    exact Or.inl ⟨u, hu, hid,
      (plan_eq_ok_iff ht hk).2 ⟨r, hgoverned.located hentity hrecord hnamed hu hid⟩⟩
  · right
    have hfind : db.getTransition m.transitionId =
        .ok ((Database.allTransitions t).find? fun u => u.id == m.transitionId) :=
      Database.read_eq_ok_iff.2 ⟨t, ht, rfl⟩
    rw [plan, hentity, (findEntity_eq_ok_iff ht hk).2 ⟨hgoverned.entity, rfl⟩, ok_bind,
      attached?_eq_some_iff.2 ⟨hgoverned.attached, hnamed⟩]
    dsimp only
    rw [hrecord, (getRecord_eq_ok_some_iff ht hk).2
      ⟨hgoverned.record, hgoverned.recordEntity, rfl⟩, ok_bind]
    dsimp only
    rw [(find_eq_ok_iff ht hk).2 ⟨hgoverned.workflow, rfl⟩, ok_bind, hfind, ok_bind]
    cases hfound : (Database.allTransitions t).find? fun u => u.id == m.transitionId with
    | none => exact ⟨_, rfl, Or.inl ⟨_, rfl, Fault.of_kind _ _ _⟩⟩
    | some u =>
      dsimp only
      rw [if_neg]
      · exact ⟨_, rfl, Or.inr ⟨_, rfl, Fault.of_kind _ _ _⟩⟩
      · obtain ⟨hu, hid⟩ := (find?_key_eq_some_iff hk.transitions).1 hfound
        rw [beq_iff_eq]
        exact fun howned => hown ⟨u, hk.mem_transitions hgoverned.workflow hu howned, hid⟩

variable {β : Type} {s : System} (ht : s.database.tables = some t) (hk : t.Keyed)
  (hfree : s.database.locked = false) (hgoverned : Governed t e w r) (hnamed : w.id ≠ "")
include ht hk hfree hgoverned hnamed

/-- A move along anything but a departure is turned away because of its transition, and changes
nothing. -/
theorem execute_of_not_mem_departures (hnot : ∀ u ∈ w.departures r, u.id ≠ m.transitionId)
    (run : System → β × System) :
    ∃ f, execute s m run = (.error f, none, s) ∧ Misdirected f := by
  rcases plan_cases hentity hrecord ht hk hgoverned hnamed with
    ⟨u, hu, hid, hplan⟩ | ⟨f, hplan, hf⟩
  · have hstored := hk.record?_eq_some_iff.2
      ⟨hgoverned.record, hgoverned.recordEntity.trans hentity.symm, hrecord.symm⟩
    have hopen := openRecord_eq_ok_iff.2
      ⟨t, r, ht, hstored, fun _ => hfree, Eq.refl (opened t m ⟨e, w, u⟩ r s.now), rfl⟩
    have hsource : u.fromState ≠ (Record.currentState r.state w).state :=
      fun hsource => hnot u (mem_departures.2 ⟨hu, hsource⟩) hid
    refine ⟨wrongState m u (Record.currentState r.state w), ?_,
      Or.inr (Or.inr ⟨_, rfl, Fault.of_kind _ _ _⟩)⟩
    rw [execute, hplan, ok_bind, hopen]
    dsimp only
    rw [opened_plan, opened_current, if_neg]
    rwa [beq_iff_eq]
  · refine ⟨f, ?_, hf.imp_right Or.inl⟩
    rw [execute, hplan, error_bind]

/-- A move along a departure that nobody interferes with is turned away only because of its actor or
because of conditions and rules, or because its audit entry cannot be written. -/
theorem execute_of_mem_departures {u : Transition} (hu : u ∈ w.departures r)
    (hid : u.id = m.transitionId) {run : System → β × System} (hquiet : Quiet run) {f : Failure}
    (h : (execute s m run).1 = .error f) :
    Barred f ∨ ¬ Writable m ⟨e, w, u⟩ r ∧ ¬ Misdirected f := by
  obtain ⟨hu, hsource⟩ := mem_departures.1 hu
  have hloc := hgoverned.located hentity hrecord hnamed hu hid
  have hreached := (reached?_eq_some_iff ht hk).2
    ⟨⟨e, w, u⟩, r, hloc, hsource, fun _ => hfree, rfl, rfl⟩
  rw [execute_of_some hreached] at h
  exact finish_error hk ht hfree hloc (hquiet.interlude_database _ _) h

end Governed
end Workflow

/-! ## Reachable systems -/

open Workflow

/-- **What is listed can be made.**  In every reachable system in which nobody is writing, let a
record belong to an entity that is attached to a workflow whose id is not empty.  The listing of its
transitions has an answer and changes nothing; it stands in the order of ids, without repetitions;
and it has the ids of those transitions along which a move of the record is not turned away because
of its transition.  Along these it is turned away only because of its actor or because of conditions
and rules, unless a text of its audit entry holds half a character. -/
theorem Reachable.mem_available_iff {s : System} {notes : List Note}
    (h : Reachable Step.Local s notes) (hfree : s.database.locked = false) {t : Tables}
    (ht : s.database.tables = some t) {e : Entity} {w : Workflow} {r : Record}
    (hgoverned : Governed t e w r) (hnamed : w.id ≠ "") :
    ∃ listing, available s.database e.id r.id = .ok listing ∧
      (Operation.available e.id r.id).run s =
        (.result (.ok (.ofList (fun x => .map x.toFields) listing)), s) ∧
      (listing.map AvailableTransition.id).Pairwise (· < ·) ∧
      ∀ m : Move, m.entityId = e.id → m.recordId = r.id →
        ∀ {β : Type} (run : System → β × System), Quiet run →
          (m.transitionId ∈ listing.map AvailableTransition.id ↔
            ∀ f, (execute s m run).1 = .error f → ¬ Misdirected f) ∧
          (m.transitionId ∈ listing.map AvailableTransition.id →
            ∀ f, (execute s m run).1 = .error f → Barred f ∨
              ∃ u ∈ w.departures r, u.id = m.transitionId ∧ ¬ Writable m ⟨e, w, u⟩ r) := by
  have hrequest : ∀ x, ¬ Step.Local (.request x) := fun _ h => h
  have hk := h.keyed hrequest t ht
  have hlisting := available_eq ht hk hgoverned hnamed
  refine ⟨_, hlisting, ?_, ?_, fun m hentity hrecord β run hquiet => ?_⟩
  · rw [Operation.run, hlisting]
    rfl
  · rw [map_id_ofTransition, List.pairwise_map]
    exact (h.workflow_sorted hrequest ht hgoverned.workflow).filter _
  · rw [map_id_ofTransition, List.mem_map]
    have herror : ∀ u ∈ w.departures r, u.id = m.transitionId →
        ∀ f, (execute s m run).1 = .error f →
          Barred f ∨ ¬ Writable m ⟨e, w, u⟩ r ∧ ¬ Misdirected f := fun u hu hid f =>
      execute_of_mem_departures hentity hrecord ht hk hfree hgoverned hnamed hu hid hquiet
    have hlisted : (∀ f, (execute s m run).1 = .error f → ¬ Misdirected f) →
        ∃ u ∈ w.departures r, u.id = m.transitionId := by
      intro hfails
      by_contra hnot
      obtain ⟨f, hf, hmisdirected⟩ := execute_of_not_mem_departures hentity hrecord ht hk hfree
        hgoverned hnamed (fun u hu hid => hnot ⟨u, hu, hid⟩) run
      exact hfails f (congrArg Prod.fst hf) hmisdirected
    refine ⟨⟨?_, hlisted⟩, ?_⟩
    · rintro ⟨u, hu, hid⟩ f hf
      exact (herror u hu hid f hf).elim Barred.not_misdirected And.right
    · rintro ⟨u, hu, hid⟩ f hf
      exact (herror u hu hid f hf).imp_right fun h => ⟨u, hu, hid, h.1⟩

/-- The rows of a database with some ids, if they belong together. -/
theorem exists_governed (db : Database) (entityId workflowId recordId : String)
    (h : (db.tables.any fun t => t.entities.any fun e => t.workflows.any fun w =>
      t.records.any fun r => e.id == entityId && w.id == workflowId && r.id == recordId &&
        e.workflowId == some w.id && r.entityId == e.id) = true) :
    ∃ t e w r, db.tables = some t ∧ Governed t e w r ∧ e.id = entityId ∧ w.id = workflowId ∧
      r.id = recordId := by
  simp only [Option.any_eq_true, List.any_eq_true, Bool.and_eq_true, beq_iff_eq] at h
  obtain ⟨t, ht, e, he, w, hw, r, hr, ⟨⟨⟨hid, hwid⟩, hrid⟩, hattached⟩, hre⟩ := h
  exact ⟨t, e, w, r, ht, ⟨he, hattached, hw, hr, hre⟩, hid, hwid, hrid⟩

/-- Signing is listed for a paper without a state, although Bob, who is no clerk, may not sign. -/
theorem mem_available_iff_signing :
    ∃ listing, available (runAll {} Paper.setUp).2.database "paper" "new" = .ok listing ∧
      listing.map AvailableTransition.id = ["sign"] ∧
      (∀ f, (execute (runAll {} Paper.setUp).2 (Paper.signing "new" (some "bob"))
        fun u => ((), u)).1 = .error f → ¬ Misdirected f ∧ Barred f) ∧
      (execute (runAll {} Paper.setUp).2 (Paper.signing "new" (some "bob"))
        fun u => ((), u)).1.isOk = false := by
  have hreachable : Reachable Step.Local (runAll {} Paper.setUp).2 _ :=
    .of_run ⟨trivial, trivial, trivial, trivial, trivial, trivial⟩
  have hfree : (runAll {} Paper.setUp).2.database.locked = false := by decide +kernel
  obtain ⟨t, e, w, r, ht, hgoverned, he, hw, hr⟩ :=
    exists_governed (runAll {} Paper.setUp).2.database "paper" "approval" "new" (by decide +kernel)
  obtain ⟨listing, hlisting, -, -, hmoves⟩ := hreachable.mem_available_iff hfree ht hgoverned
    (by rw [hw]; decide)
  have hquiet : Quiet fun u : System => ((), u) := ⟨fun _ => rfl, fun _ => rfl⟩
  obtain ⟨hiff, -⟩ := hmoves (Paper.signing "new" (some "bob")) he.symm hr.symm _ hquiet
  have hforbidden : (failureOf (execute (runAll {} Paper.setUp).2
      (Paper.signing "new" (some "bob")) fun u => ((), u)).1).all
        (fun f => decide (f.IsOf .forbidden)) = true := by decide +kernel
  rw [he, hr] at hlisting
  have hids : (available (runAll {} Paper.setUp).2.database "paper" "new").toOption.map
      (List.map AvailableTransition.id) = some ["sign"] := by decide +kernel
  rw [hlisting] at hids
  have hids : listing.map AvailableTransition.id = ["sign"] := Option.some.inj hids
  have hlisted : "sign" ∈ listing.map AvailableTransition.id := by
    rw [hids]
    exact List.mem_singleton.2 rfl
  refine ⟨listing, hlisting, hids, fun f hf => ⟨hiff.1 hlisted f hf, ?_⟩, by decide +kernel⟩
  rw [hf] at hforbidden
  exact Or.inl (of_decide_eq_true hforbidden)

/-! ## Workflows without an id -/

namespace Paper

/-- An entity that is attached to a workflow by an empty id. -/
def setUpNameless : List Step :=
  [.operation (.saveWorkflow { approval with
      id := "", transitions := [{ sign with workflowId := "" }], closed := Or.inl rfl }),
   .operation (.saveEntity { paper with workflowId := some "" }),
   .operation (.createRecord (ready "draft" (some "DRAFT")))]

end Paper

/-- A workflow whose id is empty can be saved, and attached to an entity by its id.  Still nothing
is listed for a record of that entity, and a move is turned away because the entity has no workflow,
not because of its transition. -/
theorem available_ignores_nameless :
    ¬ ∀ (s : System) (notes : List Note) (t : Tables) (e : Entity) (w : Workflow) (r : Record),
      Reachable Step.Local s notes → s.database.locked = false → s.database.tables = some t →
      Governed t e w r →
      ∃ listing, available s.database e.id r.id = .ok listing ∧
        ∀ m : Move, m.entityId = e.id → m.recordId = r.id →
          (m.transitionId ∈ listing.map AvailableTransition.id ↔
            ∀ f, (execute s m fun u => ((), u)).1 = .error f → ¬ Misdirected f) := by
  intro hclaim
  have hreachable : Reachable Step.Local (runAll {} Paper.setUpNameless).2 _ :=
    .of_run ⟨trivial, trivial, trivial, trivial⟩
  obtain ⟨t, e, w, r, ht, hgoverned, he, -, hr⟩ :=
    exists_governed (runAll {} Paper.setUpNameless).2.database "paper" "" "draft"
      (by decide +kernel)
  obtain ⟨listing, hlisting, hmoves⟩ :=
    hclaim _ _ t e w r hreachable (by decide +kernel) ht hgoverned
  rw [he, hr] at hlisting
  have hnone : (available (runAll {} Paper.setUpNameless).2.database "paper" "draft").toOption =
      some [] := by decide +kernel
  rw [hlisting] at hnone
  have hunattached : (failureOf (execute (runAll {} Paper.setUpNameless).2
      (Paper.signing "draft" none) fun u => ((), u)).1).all
        (fun f => decide (f.IsOf .noWorkflow)) = true := by decide +kernel
  have hlisted := (hmoves (Paper.signing "draft" none) he.symm hr.symm).2 fun f hf => by
    rw [hf] at hunattached
    have hkind : f.IsOf .noWorkflow := of_decide_eq_true hunattached
    rintro (h | h | h) <;> cases hkind.unique h
  rw [Option.some.inj hnone] at hlisted
  cases hlisted

end RecordRules
