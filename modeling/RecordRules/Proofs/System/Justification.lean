import RecordRules.Proofs.System.Direct

/-!
# Every audit entry is justified

An audit entry is only there because all gates of its transition were open when it was written, and
nothing that happens later takes away the grounds for it: definitions are never changed, roles are
never revoked, and the data of a record stays what it is.

* `Backs` lists the grounds for an entry, and `Backs.mono` says that they last while the tables
  grow.
* `backs_movedEntry`: a move that is allowed provides the grounds for the entry that it adds.
* `Reachable.justified` is the theorem about runs.
-/

set_option autoImplicit false

namespace RecordRules

open Workflow

/-- The grounds for an audit entry: an entity with its workflow, a transition of that workflow, and
the record that has moved along it. -/
structure Backs (limits : Expression.Limits) (t : Tables) (e : Entity) (w : Workflow)
    (u : Transition) (r : Record) (a : AuditEntry) : Prop where
  entity : e ∈ t.entities
  entityId : e.id = a.entityId
  attached : e.workflowId = some a.workflowId
  workflow : w ∈ t.workflows
  workflowId : w.id = a.workflowId
  transition : u ∈ w.transitions
  owned : u.workflowId = a.workflowId
  transitionId : u.id = a.transitionId
  fromState : u.fromState = a.fromState
  toState : u.toState = a.toState
  /-- If the transition asks for roles, whoever made it has a name and one of them. -/
  roles : u.allowedRoles.getD [] ≠ [] → t.Holds a.performedBy (u.allowedRoles.getD [])
  record : r ∈ t.records
  recordEntity : r.entityId = a.entityId
  recordId : r.id = a.recordId
  /-- The conditions hold for the data of the record as it is kept. -/
  conditions : ∀ c ∈ u.conditions.getD [],
    Expression.holds limits (scene e r.data u a.performedBy) c = true

/-- There are grounds for an audit entry. -/
def Justified (limits : Expression.Limits) (t : Tables) (a : AuditEntry) : Prop :=
  ∃ e w u r, Backs limits t e w u r a

variable {limits : Expression.Limits} {t t' : Tables} {e : Entity} {w : Workflow} {u : Transition}
  {r : Record} {a : AuditEntry}

/-- Roles are never revoked. -/
theorem Tables.Holds.mono {actor : Option String} {roles : List String} (h : t.Holds actor roles)
    (hgrows : t.Grows t') : t'.Holds actor roles := by
  obtain ⟨name, hname, hne, role, hrole, hmem⟩ := h
  exact ⟨name, hname, hne, role, hrole, hgrows.roles.subset hmem⟩

/-- The grounds for an entry last: the record may be in a later version, with the same data. -/
theorem Backs.mono (h : Backs limits t e w u r a) (hgrows : t.Grows t') :
    ∃ s, Backs limits t' e w u s a := by
  obtain ⟨s, hs, hrs⟩ := hgrows.records r h.record
  exact ⟨s, { h with
    entity := hgrows.entities.subset h.entity
    workflow := hgrows.workflows.subset h.workflow
    roles := fun hroles => (h.roles hroles).mono hgrows
    record := hs
    recordEntity := hrs.entityId.trans h.recordEntity
    recordId := hrs.id.trans h.recordId
    conditions := by rw [hrs.data]; exact h.conditions }⟩

theorem Justified.mono (h : Justified limits t a) (hgrows : t.Grows t') :
    Justified limits t' a := by
  obtain ⟨e, w, u, r, hbacks⟩ := h
  obtain ⟨s, hs⟩ := hbacks.mono hgrows
  exact ⟨e, w, u, s, hs⟩

/-- A move that is allowed provides the grounds for its entry. -/
theorem backs_movedEntry (hk : t.Keyed) {m : Move} {q : Plan} (h : Allowed limits t m q r)
    (id : String) (performedAt : Moment) :
    Backs limits t q.entity q.workflow q.transition r (movedEntry m q r id performedAt) :=
  { entity := h.located.entity
    entityId := h.located.entityId
    attached := h.located.attached
    workflow := h.located.workflow
    workflowId := rfl
    transition := h.located.transition
    owned := hk.owned q.workflow h.located.workflow q.transition h.located.transition
    transitionId := rfl
    fromState := h.source
    toState := rfl
    roles := fun hroles => h.authorized.resolve_left hroles
    record := h.located.record
    recordEntity := h.located.recordEntity
    recordId := h.located.recordId
    conditions := h.met.conditions }

/-- A row that is added is no audit entry. -/
theorem Insert.apply_audit (t : Tables) (i : Insert) : (i.apply t).audit = t.audit := by
  cases i <;> rfl

/-- **Every audit entry is justified.**  Whatever direct steps have led to a system, with whatever
ran inside them and however they ended, all gates of the transition of every entry stand open: the
workflow of the entity owns it, the actor has one of its roles, and its conditions hold. -/
theorem Reachable.justified {s : System} {notes : List Note} (h : Reachable Step.Direct s notes) :
    ∃ t, s.database.tables = some t ∧ ∀ a ∈ t.audit, Justified s.limits t a := by
  obtain ⟨t, ht, -, hall⟩ := h.direct_induction (fun _ hstep => hstep)
    (I := fun t _ => ∀ a ∈ t.audit, Justified s.limits t a) (List.forall_mem_nil _)
    (fun t lasting i o _ _ _ _ hI a ha => by
      rw [Insert.apply_audit] at ha
      exact (hI a ha).mono (Insert.grows t i))
    (fun t lasting m q r savedAt performedAt hk hallowed hI a ha => by
      have hgrows : t.Grows (t.moved m q r savedAt performedAt) :=
        hk.grows_moved hallowed.located.record savedAt performedAt
      rcases List.mem_append.1 ha with ha | ha
      · exact (hI a ha).mono hgrows
      · rw [List.mem_singleton.1 ha]
        exact Justified.mono ⟨_, _, _, _, backs_movedEntry hk hallowed _ performedAt⟩ hgrows)
  exact ⟨t, ht, hall⟩

/-- The entry of a run in which a clerk signs a paper. -/
theorem justified_signed :
    ∃ t, (runAll {} Paper.signed).2.database.tables = some t ∧
      t.audit.map AuditEntry.performedBy = [some "ann"] ∧ ∀ a ∈ t.audit, Justified {} t a := by
  have hsteps : Step.AllThroughout Step.Direct Paper.signed :=
    ⟨trivial, trivial, trivial, trivial, trivial, ⟨trivial, ⟨trivial, trivial⟩, trivial⟩, trivial⟩
  have hreachable : Reachable Step.Direct (runAll {} Paper.signed).2 _ := .of_run hsteps
  obtain ⟨t, ht, hjustified⟩ := hreachable.justified
  have hlimits : (runAll {} Paper.signed).2.limits = {} := by decide +kernel
  have hentries : ((runAll {} Paper.signed).2.database.tables.map fun t =>
      t.audit.map AuditEntry.performedBy) = some [some "ann"] := by decide +kernel
  rw [ht] at hentries
  rw [hlimits] at hjustified
  exact ⟨t, ht, Option.some.inj hentries, hjustified⟩

end RecordRules
