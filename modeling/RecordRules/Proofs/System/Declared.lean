import RecordRules.Proofs.System.Consistency
import RecordRules.Proofs.System.Justification

/-!
# Records stay in declared states

A workflow that declares states has checked that it begins in one of them and that its transitions
join them.  The engine puts a record into no other states, so one that was created within them, or
without a state, never leaves them.

* `Workflow.declares_of_mem` and `Justified.declares` are what the check says of transitions and of
  the audit entries that they leave.
* `Confined` is the invariant: every entry is justified, and a record that is not where it was
  created is where an entry has brought it.  `Confined.insert` and `Confined.move` are its two step
  lemmas.
* `Reachable.states_declared` is the theorem about runs.
-/

set_option autoImplicit false

namespace RecordRules

open Workflow

/-! ## Declared states -/

namespace Workflow

/-- The workflow declares a state of that name. -/
def Declares (w : Workflow) (name : String) : Prop := name ∈ w.states.map WorkflowState.name

/-- A record may be in that state: it has none, or one that the workflow declares. -/
def Permits (w : Workflow) (state : Option String) : Prop :=
  Record.unset state = true ∨ ∃ name, state = some name ∧ w.Declares name

variable {w : Workflow}

theorem permits_of_unset {state : Option String} (h : Record.unset state = true) :
    w.Permits state := Or.inl h

theorem Declares.permits {name : String} (h : w.Declares name) : w.Permits (some name) :=
  Or.inr ⟨name, rfl, h⟩

/-- The transitions of a workflow that declares states join declared states. -/
theorem declares_of_mem (hstates : w.states ≠ []) {u : Transition} (hu : u ∈ w.transitions) :
    w.Declares u.fromState ∧ w.Declares u.toState := by
  rcases w.closed with hnone | ⟨-, hends⟩
  · exact absurd hnone hstates
  · exact hends u hu

end Workflow

namespace Tables

/-- The entity of an id is attached to a workflow. -/
structure Attaches (t : Tables) (entityId : String) (e : Entity) (w : Workflow) : Prop where
  entity : e ∈ t.entities
  entityId : e.id = entityId
  workflow : w ∈ t.workflows
  attached : e.workflowId = some w.id

end Tables

section Justified

variable {limits : Expression.Limits} {t : Tables} {e : Entity} {w : Workflow} {a : AuditEntry}

/-- There is only one workflow that can justify an entry, and its transition joins declared
states. -/
theorem Justified.declares (h : Justified limits t a) (hk : t.Keyed)
    (hattaches : t.Attaches a.entityId e w) (hstates : w.states ≠ []) :
    w.Declares a.fromState ∧ w.Declares a.toState := by
  obtain ⟨f, v, u, r, hbacks⟩ := h
  have hentity : f = e := List.inj_on_of_nodup_map hk.entities hbacks.entity hattaches.entity
    (hbacks.entityId.trans hattaches.entityId.symm)
  subst hentity
  have hid : v.id = w.id := by
    rw [hbacks.workflowId]
    exact Option.some.inj (hbacks.attached.symm.trans hattaches.attached)
  have hworkflow : v = w :=
    List.inj_on_of_nodup_map hk.workflows hbacks.workflow hattaches.workflow hid
  subst hworkflow
  rw [← hbacks.fromState, ← hbacks.toState]
  exact declares_of_mem hstates hbacks.transition

end Justified

/-! ## Where records are -/

namespace Tables

/-- A record is in the state in which it was created, or in the one to which an audit entry has
brought it. -/
structure Places (t : Tables) (birth : String × Option String) (r : Record) : Prop where
  id : r.id = birth.1
  state : r.state = birth.2 ∨ ∃ a ∈ t.audit, a.entityId = r.entityId ∧ a.recordId = r.id ∧
    r.state = some a.toState

variable {t u : Tables} {birth : String × Option String} {r : Record}

theorem Places.mono (h : t.Places birth r) (hgrows : t.Grows u) : u.Places birth r := by
  refine ⟨h.id, ?_⟩
  rcases h.state with hbirth | ⟨a, ha, hentry⟩
  · exact Or.inl hbirth
  · exact Or.inr ⟨a, hgrows.audit.subset ha, hentry⟩

/-- A move puts its record where the entry ends that it adds. -/
theorem Places.moved (h : t.Places birth r) {m : Move} {q : Plan} (hloc : Located t m q r)
    (savedAt performedAt : Moment) :
    (t.moved m q r savedAt performedAt).Places birth (movedRecord m q r savedAt) :=
  ⟨h.id, Or.inr ⟨_, List.mem_append_right _ (List.mem_singleton_self _), hloc.recordEntity.symm,
    hloc.recordId.symm, rfl⟩⟩

end Tables

/-! ## The invariant -/

/-- Every entry is justified, and every record is where it was created, as replies have told it, or
where an entry has brought it. -/
structure Confined (limits : Expression.Limits) (t : Tables) (lasting : List Note) : Prop where
  entries : ∀ a ∈ t.audit, Justified limits t a
  records : List.Forall₂ t.Places (lasting.filterMap Note.birth?) t.records

section Confined

variable {limits : Expression.Limits} {t : Tables} {lasting : List Note}

theorem confined_empty : Confined limits {} [] := ⟨List.forall_mem_nil _, .nil⟩

/-- A record that is added is where it was created, and other rows concern no record. -/
theorem Confined.insert (h : Confined limits t lasting) (i : Insert) :
    Confined limits (i.apply t) (lasting ++ (Change.insert i).note?.toList) := by
  have hgrows := Insert.grows t i
  have hold : List.Forall₂ (i.apply t).Places (lasting.filterMap Note.birth?) t.records :=
    h.records.imp fun birth r hr => hr.mono hgrows
  refine ⟨fun a ha => ?_, ?_⟩
  · rw [Insert.apply_audit] at ha
    exact (h.entries a ha).mono hgrows
  · rw [List.filterMap_append]
    cases i with
    | record r => exact List.rel_append hold (.cons ⟨rfl, Or.inl rfl⟩ .nil)
    | _ =>
      rw [← List.append_nil (Tables.records _)]
      exact List.rel_append hold .nil

/-- A move leaves every record but its own where it is. -/
theorem Confined.move (h : Confined limits t lasting) (hk : t.Keyed) {m : Move} {q : Plan}
    {r : Record} (hallowed : Allowed limits t m q r) (savedAt performedAt : Moment) :
    Confined limits (t.moved m q r savedAt performedAt) (lasting ++ [.moved m none]) := by
  have hloc := hallowed.located
  have hgrows : t.Grows (t.moved m q r savedAt performedAt) :=
    hk.grows_moved hloc.record savedAt performedAt
  refine ⟨fun a ha => ?_, ?_⟩
  · rcases List.mem_append.1 ha with ha | ha
    · exact (h.entries a ha).mono hgrows
    · rw [List.mem_singleton.1 ha]
      exact Justified.mono ⟨_, _, _, _, backs_movedEntry hk hallowed _ performedAt⟩ hgrows
  · rw [List.filterMap_append, show [Note.moved m none].filterMap Note.birth? = [] from rfl,
      List.append_nil]
    exact hk.forall₂_moved hloc.record h.records
      (fun _ hplaces => hplaces.moved hloc savedAt performedAt)
      (fun _ _ _ _ hplaces => hplaces.mono hgrows) performedAt

end Confined

/-! ## Runs -/

/-- **Records stay in declared states.**  Whatever direct steps have led to a system, with whatever
ran inside them and however they ended: where the entity of a record is attached to a workflow that
declares states, its audit entries join declared states, and if it was created in one of them or
without a state, it still is. -/
theorem Reachable.states_declared {s : System} {notes : List Note}
    (h : Reachable Step.Direct s notes) :
    ∃ t, s.database.tables = some t ∧
      List.Forall₂ (fun birth r => r.id = birth.1 ∧
          ∀ e w, t.Attaches r.entityId e w → w.states ≠ [] →
            (w.Permits birth.2 → w.Permits r.state) ∧
            ∃ log, s.database.auditLog r.entityId r.id = .ok log ∧
              ∀ a ∈ log, w.Declares a.fromState ∧ w.Declares a.toState)
        (notes.filterMap Note.birth?) t.records := by
  obtain ⟨t, ht, hk, hconfined⟩ := h.direct_induction (fun _ hstep => hstep)
    (I := Confined s.limits) confined_empty
    (fun t lasting i o _ _ _ _ hI => hI.insert i)
    (fun t lasting m q r savedAt performedAt hk hallowed hI =>
      hI.move hk hallowed savedAt performedAt)
  refine ⟨t, ht, ?_⟩
  rw [← births_lasting]
  refine hconfined.records.imp fun birth r hplaces => ⟨hplaces.id, fun e w hattaches hstates => ?_⟩
  have hentries : ∀ a ∈ t.audit, a.entityId = r.entityId →
      w.Declares a.fromState ∧ w.Declares a.toState := by
    intro a ha hentity
    rw [← hentity] at hattaches
    exact (hconfined.entries a ha).declares hk hattaches hstates
  constructor
  · intro hbirth
    rcases hplaces.state with hstate | ⟨a, ha, hentity, -, hstate⟩
    · rwa [hstate]
    · rw [hstate]
      exact (hentries a ha hentity).2.permits
  · refine ⟨_, Tables.auditLog_eq ht r, fun a ha => ?_⟩
    obtain ⟨hmem, hkey⟩ := List.mem_filter.1 (List.mem_reverse.1 ha)
    rw [Bool.and_eq_true, beq_iff_eq] at hkey
    exact hentries a hmem hkey.1

namespace Paper

/-- The approval of papers, with its states declared. -/
def declared : Workflow :=
  { approval with
    states := [Sample.state "DRAFT" true false, Sample.state "SIGNED" false true]
    closed := by decide }

/-- A new paper is signed, while Ann is about to sign the draft. -/
def bothSigned : List Step :=
  .operation (.saveWorkflow declared) :: setUp.drop 1 ++
    [.move (signing "draft" (some "ann")) [.move (signing "new" (some "ann")) []]]

end Paper

/-- Both papers are in a declared state when they are signed. -/
theorem states_declared_signed :
    ∃ t r r', (runAll {} Paper.bothSigned).2.database.tables = some t ∧ t.records = [r, r'] ∧
      [r.state, r'.state] = [some "SIGNED", some "SIGNED"] ∧
      ∃ e w, t.Attaches "paper" e w ∧ w.states ≠ [] ∧ w.Permits r.state ∧ w.Permits r'.state := by
  have hsteps : Step.AllThroughout Step.Direct Paper.bothSigned :=
    ⟨trivial, trivial, trivial, trivial, trivial, ⟨trivial, ⟨trivial, trivial⟩, trivial⟩, trivial⟩
  have hreachable : Reachable Step.Direct (runAll {} Paper.bothSigned).2 _ := .of_run hsteps
  obtain ⟨t, ht, hdeclared⟩ := hreachable.states_declared
  have hbirths : (notesAll Paper.bothSigned (runAll {} Paper.bothSigned).1).filterMap Note.birth? =
      [("new", none), ("draft", some "DRAFT")] := by decide +kernel
  have hentities : ((runAll {} Paper.bothSigned).2.database.tables.map fun t =>
      t.entities.map fun e => (e.id, e.workflowId)) = some [("paper", some "approval")] := by
    decide +kernel
  have hworkflows : ((runAll {} Paper.bothSigned).2.database.tables.map fun t =>
      t.workflows.map fun w => (w.id, w.states.map WorkflowState.name)) =
        some [("approval", ["DRAFT", "SIGNED"])] := by decide +kernel
  have hrecords : ((runAll {} Paper.bothSigned).2.database.tables.map fun t =>
      t.records.map fun r => (r.entityId, r.state)) =
        some [("paper", some "SIGNED"), ("paper", some "SIGNED")] := by decide +kernel
  rw [ht, Option.map_some, Option.some.injEq] at hentities hworkflows hrecords
  obtain ⟨e, he, hentity⟩ := List.map_eq_singleton_iff.1 hentities
  obtain ⟨w, hw, hworkflow⟩ := List.map_eq_singleton_iff.1 hworkflows
  rw [Prod.mk.injEq] at hentity hworkflow
  -- the two records, each with what it was created as
  rw [hbirths] at hdeclared
  obtain ⟨r, _, ⟨-, hnew⟩, hrest, hlist⟩ := List.forall₂_cons_left_iff.1 hdeclared
  obtain ⟨r', _, ⟨-, hold⟩, hnil, rfl⟩ := List.forall₂_cons_left_iff.1 hrest
  rw [List.forall₂_nil_left_iff] at hnil
  subst hnil
  rw [hlist] at hrecords
  obtain ⟨⟨hr, hstate⟩, hr', hstate'⟩ :
      (r.entityId = "paper" ∧ r.state = some "SIGNED") ∧
        r'.entityId = "paper" ∧ r'.state = some "SIGNED" := by
    simpa using hrecords
  have hattaches : t.Attaches "paper" e w :=
    { entity := by rw [he]; exact List.mem_singleton_self e
      entityId := hentity.1
      workflow := by rw [hw]; exact List.mem_singleton_self w
      attached := by rw [hworkflow.1]; exact hentity.2 }
  have hstates : w.states ≠ [] := fun hnone => by
    rw [hnone] at hworkflow
    cases hworkflow.2
  have hdraft : w.Declares "DRAFT" := by
    rw [Declares, hworkflow.2]
    decide
  refine ⟨t, r, r', ht, hlist, by rw [hstate, hstate'], e, w, hattaches, hstates, ?_, ?_⟩
  · exact (hnew e w (by rw [hr]; exact hattaches) hstates).1 (permits_of_unset rfl)
  · exact (hold e w (by rw [hr']; exact hattaches) hstates).1 hdraft.permits

end RecordRules
