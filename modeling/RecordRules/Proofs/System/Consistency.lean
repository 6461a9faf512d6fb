import Mathlib.Data.List.Chain
import Mathlib.Data.List.Forall2
import RecordRules.Proofs.Schema.Named
import RecordRules.Proofs.System.Direct

/-!
# State and audit history agree

The audit entries of a record, in the order in which they were added, tell how it has come from the
state in which it was created to the one in which it is now.

* `Tables.Consistent` says that of a record and of the state in which it was created.
* `Faithful` is the invariant: all records are consistent, and nothing else can get into their
  histories.  `Faithful.insert` and `Faithful.move` are its two step lemmas.
* `Reachable.consistent` is the theorem about runs, and `Reachable.named` says that it is about all
  those in which workflows are saved once they have passed their check.
-/

set_option autoImplicit false

namespace RecordRules

open Workflow

/-! ## The history of a record -/

/-- The id of a record that was created, and the state in which it was. -/
def Note.birth? : Note → Option (String × Option String)
  | .created recordId state => some (recordId, state)
  | _ => none

namespace Tables

/-- The audit entries of a record, oldest first. -/
def entriesOf (t : Tables) (r : Record) : List AuditEntry :=
  t.audit.filter fun a => a.entityId == r.entityId && a.recordId == r.id

/-- The listing of the audit entries of a record shows them newest first. -/
theorem auditLog_eq {db : Database} {t : Tables} (ht : db.tables = some t) (r : Record) :
    db.auditLog r.entityId r.id = .ok (t.entriesOf r).reverse :=
  Database.read_eq_ok_iff.2 ⟨t, ht, rfl⟩

/-- A state in which records of an entity start: the one in which they were created, or the initial
one of the workflow if they were created without. -/
def StartsIn (t : Tables) (entityId : String) (created : Option String) (state : String) : Prop :=
  if Record.unset created then
    ∃ e ∈ t.entities, e.id = entityId ∧
      ∃ w ∈ t.workflows, e.workflowId = some w.id ∧ state = w.initialState
  else created = some state

/-- The audit entries of a record explain its state and its version. -/
structure Consistent (t : Tables) (birth : String × Option String) (r : Record) : Prop where
  id : r.id = birth.1
  /-- Every entry starts where the one before it ends. -/
  chain : (t.entriesOf r).IsChain fun a b => a.toState = b.fromState
  /-- The last entry ends where the record stands. -/
  last : ∀ a ∈ (t.entriesOf r).getLast?, r.state = some a.toState
  /-- The first entry starts where the record was created. -/
  first : ∀ a ∈ (t.entriesOf r).head?, t.StartsIn r.entityId birth.2 a.fromState
  /-- Without entries the record is still where it was created. -/
  unmoved : t.entriesOf r = [] → r.state = birth.2
  /-- The version counts the entries, and the state that the first of them had to supply. -/
  version : r.version = 1 + (t.entriesOf r).length +
    if t.entriesOf r ≠ [] ∧ Record.unset birth.2 then 1 else 0

variable {t u : Tables} {birth : String × Option String} {r : Record}

theorem StartsIn.mono {entityId : String} {created : Option String} {state : String}
    (h : t.StartsIn entityId created state) (hentities : t.entities ⊆ u.entities)
    (hworkflows : t.workflows ⊆ u.workflows) : u.StartsIn entityId created state := by
  rw [StartsIn] at h ⊢
  split
  · rename_i hunset
    rw [if_pos hunset] at h
    obtain ⟨e, he, hid, w, hw, hattached, hstate⟩ := h
    exact ⟨e, hentities he, hid, w, hworkflows hw, hattached, hstate⟩
  · rename_i hset
    rwa [if_neg hset] at h

/-- A record stays consistent as long as it has the same entries. -/
theorem Consistent.mono (h : t.Consistent birth r) (hentries : u.entriesOf r = t.entriesOf r)
    (hentities : t.entities ⊆ u.entities) (hworkflows : t.workflows ⊆ u.workflows) :
    u.Consistent birth r := by
  constructor
  · exact h.id
  · rw [hentries]
    exact h.chain
  · rw [hentries]
    exact h.last
  · rw [hentries]
    exact fun a ha => (h.first a ha).mono hentities hworkflows
  · rw [hentries]
    exact h.unmoved
  · rw [hentries]
    exact h.version

/-- A record that has just been created has no entries yet. -/
theorem consistent_of_created (hentries : t.entriesOf r = []) (hversion : r.version = 1) :
    t.Consistent (r.id, r.state) r := by
  constructor
  · rfl
  · rw [hentries]
    exact .nil
  · rw [hentries]
    intro a ha
    cases ha
  · rw [hentries]
    intro a ha
    cases ha
  · exact fun _ => rfl
  · rw [hentries, hversion]
    rfl

/-! ## Moves -/

section Moved

variable {m : Move} {q : Plan} {limits : Expression.Limits}

/-- A move adds an entry to its record. -/
theorem entriesOf_moved (hloc : Located t m q r) (savedAt performedAt : Moment) :
    (t.moved m q r savedAt performedAt).entriesOf (movedRecord m q r savedAt) = t.entriesOf r ++
      [movedEntry m q r (freshId (t.audit.filterMap AuditEntry.id)) performedAt] := by
  have hkey : (m.entityId == r.entityId && m.recordId == r.id) = true := by
    rw [hloc.recordEntity, hloc.recordId, beq_self_eq_true, beq_self_eq_true, Bool.and_true]
  rw [entriesOf, Tables.moved, addEntry]
  dsimp only [Tables.put]
  rw [List.filter_append, List.filter_cons, List.filter_nil]
  exact congrArg _ (if_pos hkey)

/-- A move leaves the entries of all other records alone. -/
theorem entriesOf_moved_other (hloc : Located t m q r) (savedAt performedAt : Moment) {x : Record}
    (hx : x.id ≠ r.id) :
    (t.moved m q r savedAt performedAt).entriesOf x = t.entriesOf x := by
  have hkey : ¬ (m.entityId == x.entityId && m.recordId == x.id) = true := by
    rw [Bool.and_eq_true, beq_iff_eq, beq_iff_eq, ← hloc.recordId]
    exact fun h => hx h.2.symm
  rw [entriesOf, Tables.moved, addEntry]
  dsimp only [Tables.put]
  rw [List.filter_append, List.filter_cons, List.filter_nil]
  exact (congrArg _ (if_neg hkey)).trans (List.append_nil _)

/-- **A move keeps its record consistent**: it starts where the last entry ends, or where the record
was created if there is none. -/
theorem Consistent.moved (h : t.Consistent birth r) (hnamed : ∀ a ∈ t.audit, a.toState ≠ "")
    (hallowed : Allowed limits t m q r) (savedAt performedAt : Moment) :
    (t.moved m q r savedAt performedAt).Consistent birth (movedRecord m q r savedAt) := by
  have hloc := hallowed.located
  have hentries := entriesOf_moved hloc savedAt performedAt
  -- with entries, the record has a state of its own, which is where the last of them ends
  have hcurrent : ∀ a ∈ (t.entriesOf r).getLast?, Record.unset r.state = false ∧
      a.toState = (Record.currentState r.state q.workflow).state := by
    intro a ha
    have hmem : a ∈ t.audit := (List.mem_filter.1 (List.mem_of_getLast? ha)).1
    have hset : Record.unset r.state = false := by
      rw [h.last a ha, Record.unset, Option.getD_some, Bool.eq_false_iff, ne_eq, String.isEmpty_iff]
      exact hnamed a hmem
    refine ⟨hset, ?_⟩
    have hstate := Record.currentState_of_set (w := q.workflow) hset
    exact Option.some.inj ((h.last a ha).symm.trans hstate)
  constructor
  · exact h.id
  · rw [hentries]
    refine h.chain.append (.singleton _) fun a ha b hb => ?_
    cases hb
    exact (hcurrent a ha).2
  · rw [hentries]
    intro a ha
    rw [List.getLast?_concat] at ha
    cases ha
    rfl
  · rw [hentries]
    intro a ha
    cases hold : t.entriesOf r with
    | cons b rest =>
      rw [hold] at ha
      have hab : b = a := Option.some.inj ha
      subst hab
      exact (h.first b (by rw [hold]; rfl)).mono (List.Subset.refl _) (List.Subset.refl _)
    | nil =>
      rw [hold] at ha
      cases ha
      have hbirth := h.unmoved hold
      rw [StartsIn, ← hbirth]
      split
      · rename_i hunset
        exact ⟨q.entity, hloc.entity, hloc.entityId.trans hloc.recordEntity.symm, q.workflow,
          hloc.workflow, hloc.attached, Record.currentState_of_unset hunset⟩
      · rename_i hset
        exact Record.currentState_of_set (Bool.eq_false_iff.2 hset)
  · rw [hentries]
    intro hnil
    exact absurd hnil (List.append_ne_nil_of_right_ne_nil _ (List.cons_ne_nil _ _))
  · rw [hentries, List.length_append, List.length_singleton, movedRecord]
    dsimp only
    rw [h.version]
    cases hold : (t.entriesOf r).getLast? with
    | none =>
      rw [List.getLast?_eq_none_iff] at hold
      rw [hold, h.unmoved hold]
      cases Record.unset birth.2 <;> simp
    | some a =>
      have hne : t.entriesOf r ≠ [] := fun hnil => by
        rw [hnil] at hold
        cases hold
      rw [(hcurrent a hold).1]
      by_cases hunset : Record.unset birth.2 = true <;> simp [hne, hunset] <;> omega

end Moved
end Tables

/-! ## The invariant -/

/-- Every record is consistent with the state in which it was created, as replies have told it; no
state in the history is unnamed, and no entry is about a record that does not exist. -/
structure Faithful (t : Tables) (lasting : List Note) : Prop where
  workflows : ∀ w ∈ t.workflows, w.Named
  entries : ∀ a ∈ t.audit, a.toState ≠ ""
  records : ∀ a ∈ t.audit, ∃ r ∈ t.records, r.id = a.recordId
  consistent : List.Forall₂ t.Consistent (lasting.filterMap Note.birth?) t.records

theorem faithful_empty : Faithful {} [] := 
  ⟨List.forall_mem_nil _, List.forall_mem_nil _, List.forall_mem_nil _, .nil⟩

theorem forall₂_of_mem {α β : Type} {R S : α → β → Prop} {as : List α} {bs : List β}
    (h : List.Forall₂ R as bs) (himp : ∀ a, ∀ b ∈ bs, R a b → S a b) : List.Forall₂ S as bs := by
  induction h with
  | nil => exact .nil
  | @cons a b as bs hab _ ih =>
    exact .cons (himp a b (List.mem_cons_self ..) hab)
      (ih fun a b hb => himp a b (List.mem_cons_of_mem _ hb))

/-- What holds of all records still does after a move, if it is kept for the record that has moved
and for all others. -/
theorem Tables.Keyed.forall₂_moved {α : Type} {R S : α → Record → Prop} {births : List α}
    {t : Tables} {m : Move} {q : Plan} {r : Record} (hk : t.Keyed) (hr : r ∈ t.records)
    {savedAt : Moment} (h : List.Forall₂ R births t.records)
    (hown : ∀ birth, R birth r → S birth (movedRecord m q r savedAt))
    (hother : ∀ birth, ∀ x ∈ t.records, x.id ≠ r.id → R birth x → S birth x)
    (performedAt : Moment) : List.Forall₂ S births (t.moved m q r savedAt performedAt).records := by
  refine List.forall₂_map_right_iff.2 (forall₂_of_mem h fun birth x hx hbirth => ?_)
  by_cases hid : x.id = r.id
  · rw [List.inj_on_of_nodup_map hk.records hx hr hid] at hbirth ⊢
    rw [if_pos (show (r.id == (movedRecord m q r savedAt).id) = true from beq_self_eq_true r.id)]
    exact hown birth hbirth
  · rw [if_neg (by rw [beq_iff_eq]; exact hid)]
    exact hother birth x hx hid hbirth

/-- New definitions change no history. -/
theorem Faithful.of_same_records {t u : Tables} {lasting : List Note} (h : Faithful t lasting)
    (hrecords : u.records = t.records) (haudit : u.audit = t.audit)
    (hentities : t.entities ⊆ u.entities) (hworkflows : t.workflows ⊆ u.workflows)
    (hnamed : ∀ w ∈ u.workflows, w.Named) : Faithful u (lasting ++ []) := by
  refine ⟨hnamed, by rw [haudit]; exact h.entries, by rw [haudit, hrecords]; exact h.records, ?_⟩
  rw [List.append_nil, hrecords]
  exact h.consistent.imp fun birth x hx =>
    hx.mono (by rw [Tables.entriesOf, haudit]; rfl) hentities hworkflows

/-- A row that is added changes no history; a record that is created begins one. -/
theorem Faithful.insert {t : Tables} {lasting : List Note} {i : Insert} (h : Faithful t lasting)
    (hfits : i.Fits t) (hnamed : ∀ w, i = .workflow w → w.Named) :
    Faithful (i.apply t) (lasting ++ (Change.insert i).note?.toList) := by
  cases i with
  | record r =>
    obtain ⟨hnew, hversion⟩ := hfits
    refine ⟨h.workflows, h.entries, fun a ha => ?_, ?_⟩
    · obtain ⟨x, hx, hid⟩ := h.records a ha
      exact ⟨x, List.mem_append_left _ hx, hid⟩
    · have hentries : (Insert.apply t (.record r)).entriesOf r = [] := by
        refine List.filter_eq_nil_iff.2 fun a ha hkey => ?_
        obtain ⟨x, hx, hid⟩ := h.records a ha
        rw [Bool.and_eq_true, beq_iff_eq, beq_iff_eq] at hkey
        exact hnew x hx (hid.trans hkey.2)
      have hold := h.consistent.imp fun birth x hx =>
        hx.mono (u := Insert.apply t (.record r)) rfl (List.Subset.refl _) (List.Subset.refl _)
      rw [List.filterMap_append]
      exact List.rel_append hold (.cons (Tables.consistent_of_created hentries hversion) .nil)
  | workflow w =>
    refine (h.of_same_records rfl rfl (List.Subset.refl _) (List.subset_append_left _ _)
      fun x hx => ?_)
    rcases List.mem_append.1 hx with hx | hx
    · exact h.workflows x hx
    · rw [List.mem_singleton.1 hx]
      exact hnamed w rfl
  | entity e =>
    exact h.of_same_records rfl rfl (List.subset_append_left _ _) (List.Subset.refl _) h.workflows
  | rule _ => exact h.of_same_records rfl rfl (List.Subset.refl _) (List.Subset.refl _) h.workflows
  | measure _ =>
    exact h.of_same_records rfl rfl (List.Subset.refl _) (List.Subset.refl _) h.workflows
  | grant _ _ =>
    exact h.of_same_records rfl rfl (List.Subset.refl _) (List.Subset.refl _) h.workflows
  | indexes => exact h.of_same_records rfl rfl (List.Subset.refl _) (List.Subset.refl _) h.workflows

/-- A move adds to the history of its record and to no other one. -/
theorem Faithful.move {t : Tables} {lasting : List Note} {limits : Expression.Limits} {m : Move}
    {q : Plan} {r : Record} (h : Faithful t lasting) (hk : t.Keyed)
    (hallowed : Allowed limits t m q r) (savedAt performedAt : Moment) :
    Faithful (t.moved m q r savedAt performedAt) (lasting ++ [.moved m none]) := by
  have hloc := hallowed.located
  have hput : ∀ x ∈ t.records, ∃ y ∈ (t.moved m q r savedAt performedAt).records, y.id = x.id := by
    intro x hx
    obtain ⟨y, hy, hxy⟩ := (hk.grows_moved hloc.record savedAt performedAt).records x hx
    exact ⟨y, hy, hxy.id⟩
  refine ⟨h.workflows, fun a ha => ?_, fun a ha => ?_, ?_⟩
  · rcases List.mem_append.1 ha with ha | ha
    · exact h.entries a ha
    · rw [List.mem_singleton.1 ha]
      exact h.workflows q.workflow hloc.workflow q.transition hloc.transition
  · rcases List.mem_append.1 ha with ha | ha
    · obtain ⟨x, hx, hid⟩ := h.records a ha
      obtain ⟨y, hy, hyx⟩ := hput x hx
      exact ⟨y, hy, hyx.trans hid⟩
    · obtain ⟨y, hy, hyr⟩ := hput r hloc.record
      rw [List.mem_singleton.1 ha]
      exact ⟨y, hy, hyr.trans hloc.recordId⟩
  · rw [List.filterMap_append, show [Note.moved m none].filterMap Note.birth? = [] from rfl,
      List.append_nil]
    refine hk.forall₂_moved hloc.record h.consistent (fun birth hbirth => ?_)
      (fun birth x _ hid hbirth => ?_) performedAt
    · exact hbirth.moved h.entries hallowed savedAt performedAt
    · exact hbirth.mono (Tables.entriesOf_moved_other hloc savedAt performedAt hid)
        (List.Subset.refl _) (List.Subset.refl _)

/-! ## Runs -/

/-- A workflow is saved only if no transition of it leads to a state with an empty name. -/
def Step.Named : Step → Prop
  | .operation (.saveWorkflow w) => w.Named
  | _ => True

/-- A workflow is saved only if it has passed its check. -/
def Step.Checked : Step → Prop
  | .operation (.saveWorkflow w) => ∃ fields, (Workflow.check fields).result = .ok w
  | _ => True

theorem Step.Checked.named {step : Step} (h : step.Checked) : step.Named := by
  cases step with
  | operation o =>
    cases o with
    | saveWorkflow w =>
      obtain ⟨fields, hcheck⟩ := h
      exact Workflow.named_of_check hcheck
    | _ => trivial
  | _ => trivial

/-- Direct runs that save checked workflows only are runs as `Reachable.consistent` is about. -/
theorem Reachable.named {s : System} {notes : List Note}
    (h : Reachable (fun step => step.Direct ∧ step.Checked) s notes) :
    Reachable (fun step => step.Direct ∧ step.Named) s notes :=
  h.mono fun _ hstep => hstep.imp_right Step.Checked.named

/-- A workflow is kept with the names of its states. -/
theorem Workflow.Named.stored {w w' : Workflow} (h : w.Named) (hstored : w.stored = .ok w') :
    w'.Named := by
  intro u hu
  obtain ⟨v, hv, metadata, rfl⟩ := Workflow.stored_mem hstored hu
  exact h v hv

/-- All births last. -/
theorem births_lasting (notes : List Note) :
    (notes.filter Note.lasting).filterMap Note.birth? = notes.filterMap Note.birth? := by
  rw [List.filterMap_filter]
  refine List.filterMap_congr fun n _ => ?_
  cases n with
  | moved m failure => cases failure <;> rfl
  | _ => rfl

/-- **State and audit history never diverge.**  Whatever direct steps have led to a system, with
whatever ran inside them and however they ended, every record is consistent with the state in which
it was created: its entries form a chain that starts there and ends where the record stands, and its
version counts them. -/
theorem Reachable.consistent {s : System} {notes : List Note}
    (h : Reachable (fun step => step.Direct ∧ step.Named) s notes) :
    ∃ t, s.database.tables = some t ∧
      List.Forall₂ t.Consistent (notes.filterMap Note.birth?) t.records := by
  obtain ⟨t, ht, -, hfaithful⟩ := h.direct_induction (fun _ hstep => hstep.1) faithful_empty
    (fun t lasting i o _ ho hadd hfits hI => hI.insert hfits fun w hw => by
      subst hw
      cases hadd with
      | workflow hstored => exact ho.2.stored hstored
      | sample => exact ho.1.elim)
    (fun t lasting m q r savedAt performedAt hk hallowed hI =>
      hI.move hk hallowed savedAt performedAt)
  refine ⟨t, ht, ?_⟩
  rw [← births_lasting]
  exact hfaithful.consistent

/-- The papers of a run in which one of them is signed. -/
theorem consistent_signed :
    ∃ t, (runAll {} Paper.signed).2.database.tables = some t ∧ t.audit.length = 1 ∧
      List.Forall₂ t.Consistent [("new", none), ("draft", some "DRAFT")] t.records := by
  have hchecked : (Workflow.check Paper.approval.toFields).result = .ok Paper.approval := rfl
  have hsteps : Step.AllThroughout (fun step => step.Direct ∧ step.Checked) Paper.signed :=
    ⟨⟨trivial, _, hchecked⟩, ⟨trivial, trivial⟩, ⟨trivial, trivial⟩,
      ⟨trivial, trivial⟩, ⟨trivial, trivial⟩,
      ⟨⟨trivial, trivial⟩, ⟨⟨trivial, trivial⟩, trivial⟩, trivial⟩, trivial⟩
  have hreachable : Reachable (fun step => step.Direct ∧ step.Named)
      (runAll {} Paper.signed).2 (notesAll Paper.signed (runAll {} Paper.signed).1) :=
    (Reachable.of_run hsteps).named
  obtain ⟨t, ht, hconsistent⟩ := hreachable.consistent
  have hbirths : (notesAll Paper.signed (runAll {} Paper.signed).1).filterMap Note.birth? =
      [("new", none), ("draft", some "DRAFT")] := by decide +kernel
  have hentries : ((runAll {} Paper.signed).2.database.tables.map fun t => t.audit.length) =
      some 1 := by decide +kernel
  rw [ht] at hentries
  rw [hbirths] at hconsistent
  exact ⟨t, ht, Option.some.inj hentries, hconsistent⟩

end RecordRules
