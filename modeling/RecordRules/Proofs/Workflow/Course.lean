import RecordRules.Proofs.Workflow.Gates

/-!
# The course of a move

`Workflow.execute` step by step, without its monads.

* `openRecord_eq_ok_iff`: the record is loaded, and put into the initial state if it has none
  (`opened`).
* `reached?` is the system in which the roles of the actor are about to be looked up, which is when
  other steps can run; `execute_of_some` and `execute_of_none` split a move there.
* `finish_cases`: from there on a move that fails takes back what it has written, and one that
  succeeds has passed its gates.
* `finish_eq_ok_iff`: it succeeds exactly if its gates are open, its record is still the one that
  was loaded and its audit entry can be written, and then it leaves `Tables.moved` behind.
-/

set_option autoImplicit false

namespace RecordRules

open Workflow

namespace Workflow

/-- The record after a move: the next version, or the one after that if the record had to be put
into the initial state first. -/
def movedRecord (m : Move) (p : Plan) (r : Record) (savedAt : Moment) : Record :=
  { r with
    state := some p.transition.toState
    updatedBy := m.actor
    updatedAt := some savedAt
    version := r.version + if Record.unset r.state then 2 else 1 }

/-- The audit entry of a move, under an id. -/
def movedEntry (m : Move) (p : Plan) (r : Record) (id : String) (performedAt : Moment) :
    AuditEntry :=
  { id := some id
    entityId := m.entityId
    recordId := m.recordId
    workflowId := p.workflow.id
    fromState := (Record.currentState r.state p.workflow).state
    toState := p.transition.toState
    transitionId := p.transition.id
    transitionLabel := p.transition.actionLabel
    performedBy := m.actor
    performedAt := performedAt.withoutOffset
    comments := m.comments
    metadata := some [] }

/-- The texts that a move writes down in its audit entry have whole characters only. -/
def Writable (m : Move) (p : Plan) (r : Record) : Prop :=
  ∀ s ∈ [m.entityId, m.recordId, p.workflow.id, (Record.currentState r.state p.workflow).state,
      p.transition.toState, p.transition.id] ++ p.transition.actionLabel.toList ++
      m.actor.toList ++ m.comments.toList, Text.hasHalf s = false

end Workflow

namespace Tables

/-- The tables after a move of a record: its new version, and one more audit entry. -/
def moved (t : Tables) (m : Move) (p : Plan) (r : Record) (savedAt performedAt : Moment) : Tables :=
  (t.put (movedRecord m p r savedAt)).addEntry
    (movedEntry m p r (freshId (t.audit.filterMap AuditEntry.id)) performedAt)

theorem put_put (t : Tables) {r s : Record} (h : s.id = r.id) : (t.put r).put s = t.put s := by
  rw [put, put, put]
  congr 1
  rw [List.map_map]
  refine List.map_congr_left fun x _ => ?_
  rw [Function.comp_apply]
  by_cases hx : x.id = r.id <;> simp [hx, h, Transaction.restated]

theorem mem_put {t : Tables} {r s : Record} (hr : r ∈ t.records) (h : s.id = r.id)
    (hs : Transaction.restated s r = s) : s ∈ (t.put s).records :=
  List.mem_map.2 ⟨r, hr, by rw [h, beq_self_eq_true, if_pos rfl, hs]⟩

end Tables

theorem System.withDatabase_self (s : System) : s.withDatabase s.database = s := rfl

namespace Workflow

/-! ## Opening -/

/-- A move once its record has been loaded from tables, and put into the initial state if it has no
state of its own. -/
def opened (t : Tables) (m : Move) (p : Plan) (r : Record) (openedAt : Moment) : Opened :=
  let current := Record.currentState r.state p.workflow
  let tx := ({} : Transaction).afterLoad m.entityId m.recordId r
  if current.defaulted then
    let record := r.saved current.state m.actor openedAt
    { plan := p, record, current, tx := tx.afterSave m.recordId t record }
  else { plan := p, record := r, current, tx }

section Opened

variable (t : Tables) (m : Move) (p : Plan) (r : Record) (openedAt : Moment)

@[simp] theorem opened_plan : (opened t m p r openedAt).plan = p := by
  rw [opened]; dsimp only; split <;> rfl

@[simp] theorem opened_current :
    (opened t m p r openedAt).current = Record.currentState r.state p.workflow := by
  rw [opened]; dsimp only; split <;> rfl

@[simp] theorem opened_data : (opened t m p r openedAt).record.data = r.data := by
  rw [opened]; dsimp only; split <;> rfl

theorem opened_loaded :
    (opened t m p r openedAt).tx.loaded.get? m.recordId =
      some (opened t m p r openedAt).record := by
  rw [opened]
  dsimp only
  split
  · exact Fields.get?_set_self _ _ _
  · exact Fields.get?_set_self _ _ _

variable {p r}

theorem opened_of_set (h : (Record.currentState r.state p.workflow).defaulted = false) :
    (opened t m p r openedAt).record = r ∧ (opened t m p r openedAt).tx.pending = none := by
  rw [opened, h]
  exact ⟨rfl, rfl⟩

theorem opened_of_unset (h : (Record.currentState r.state p.workflow).defaulted = true) :
    (opened t m p r openedAt).record = r.saved p.workflow.initialState m.actor openedAt ∧
      (opened t m p r openedAt).tx.pending =
        some (t.put (r.saved p.workflow.initialState m.actor openedAt)) := by
  have hs : (Record.currentState r.state p.workflow).state = p.workflow.initialState :=
    Record.currentState_of_unset (Record.currentState_defaulted ▸ h)
  rw [opened, h, hs]
  exact ⟨rfl, rfl⟩

end Opened

/-- The database while a move is under way: with the write lock if the move has written. -/
def held (db : Database) (o : Opened) : Database :=
  if o.current.defaulted then { db with locked := true } else db

@[simp] theorem held_tables (db : Database) (o : Opened) : (held db o).tables = db.tables := by
  rw [held]; split <;> rfl

theorem held_of_set {t : Tables} {m : Move} {p : Plan} {r : Record} {openedAt : Moment}
    (h : (Record.currentState r.state p.workflow).defaulted = false) (db : Database) :
    held db (opened t m p r openedAt) = db := by
  rw [held, opened_current, h]
  rfl

theorem held_of_unset {t : Tables} {m : Move} {p : Plan} {r : Record} {openedAt : Moment}
    (h : (Record.currentState r.state p.workflow).defaulted = true) (db : Database) :
    held db (opened t m p r openedAt) = { db with locked := true } := by
  rw [held, opened_current, if_pos h]

theorem openRecord_eq_ok_iff {db db' : Database} {openedAt : Moment} {p : Plan} {m : Move}
    {o : Opened} :
    openRecord db openedAt p m = .ok (o, db') ↔
      ∃ t r, db.tables = some t ∧ t.record? m.entityId m.recordId = some r ∧
        ((Record.currentState r.state p.workflow).defaulted = true → db.locked = false) ∧
        o = opened t m p r openedAt ∧ db' = held db o := by
  rw [openRecord, bind_eq_ok_iff]
  constructor
  · rintro ⟨⟨found, tx⟩, hload, h⟩
    obtain ⟨t, ht, hfound⟩ := Transaction.load_eq_ok_iff.1 (mapError_eq_ok_iff.1 hload)
    cases hr : t.record? m.entityId m.recordId with
    | none =>
      rw [hr] at hfound
      obtain ⟨rfl, rfl⟩ := hfound
      cases h
    | some r =>
      rw [hr] at hfound
      obtain ⟨rfl, rfl⟩ := hfound
      refine ⟨t, r, ht, hr, ?_⟩
      dsimp only [Transaction.afterLoad, Fields.get?_nil, Option.getD_none] at h
      split at h
      · rename_i hdefaulted
        obtain ⟨⟨record, tx, db₁⟩, hsave, h⟩ := bind_eq_ok_iff.1 h
        obtain ⟨old, u, hold, hu, hfree, -, rfl, rfl, rfl⟩ :=
          Transaction.saveState_eq_ok_iff.1 (mapError_eq_ok_iff.1 hsave)
        dsimp only at hold
        rw [Fields.get?_set_self] at hold
        cases hold
        have hut : t = u := Option.some.inj (ht.symm.trans hu)
        subst hut
        cases h
        refine ⟨fun _ => hfree rfl, ?_, ?_⟩
        · rw [opened, hdefaulted]; rfl
        · rw [held, if_pos hdefaulted]
      · rename_i hset
        cases h
        refine ⟨fun hdefaulted => absurd hdefaulted hset, ?_, ?_⟩
        · rw [opened]; dsimp only; rw [if_neg hset]; rfl
        · rw [held, if_neg hset]
  · rintro ⟨t, r, ht, hr, hfree, rfl, rfl⟩
    refine ⟨(some r, ({} : Transaction).afterLoad m.entityId m.recordId r), ?_, ?_⟩
    · refine mapError_eq_ok_iff.2 (Transaction.load_eq_ok_iff.2 ⟨t, ht, ?_⟩)
      rw [hr]
      exact ⟨rfl, rfl⟩
    · dsimp only
      have hri : r.id = m.recordId := by
        have hkey := List.find?_some hr
        rw [Bool.and_eq_true, beq_iff_eq, beq_iff_eq] at hkey
        exact hkey.2
      split
      · rename_i hdefaulted
        refine bind_eq_ok_iff.2 ⟨_, mapError_eq_ok_iff.2 (Transaction.saveState_eq_ok_iff.2
          ⟨r, t, Fields.get?_set_self _ _ _, ht, fun _ => hfree hdefaulted,
            ⟨r, List.mem_of_find?_eq_some hr, rfl, rfl⟩, rfl, rfl, rfl⟩), ?_⟩
        rw [held, opened_current, if_pos hdefaulted, opened, hdefaulted]
        rfl
      · rename_i hset
        rw [held, opened_current, if_neg hset, opened]
        dsimp only
        rw [if_neg hset]
        rfl

/-- A move whose record has been loaded, and the system as the roles of its actor are about to be
looked up, if it comes to that. -/
def reached? (s : System) (m : Move) : Option (Opened × System) :=
  match plan s.database m >>= fun p => openRecord s.database s.now p m with
  | .error _ => none
  | .ok (o, db) =>
    if o.plan.transition.fromState == o.current.state then some (o, s.withDatabase db) else none

theorem reached?_eq_some_iff {s u : System} {t : Tables} (ht : s.database.tables = some t)
    (hk : t.Keyed) {m : Move} {o : Opened} :
    reached? s m = some (o, u) ↔
      ∃ p r, Located t m p r ∧
        p.transition.fromState = (Record.currentState r.state p.workflow).state ∧
        ((Record.currentState r.state p.workflow).defaulted = true → s.database.locked = false) ∧
        o = opened t m p r s.now ∧ u = s.withDatabase (held s.database o) := by
  rw [reached?]
  constructor
  · intro h
    split at h
    · cases h
    · rename_i o' db hopen
      split at h
      · rename_i hsource
        cases h
        obtain ⟨p, hp, hopen⟩ := bind_eq_ok_iff.1 hopen
        obtain ⟨t', r, ht', hr, hfree, rfl, rfl⟩ := openRecord_eq_ok_iff.1 hopen
        have htt : t = t' := Option.some.inj (ht.symm.trans ht')
        subst htt
        obtain ⟨r', hloc⟩ := (plan_eq_ok_iff ht hk).1 hp
        have hrr : r' = r := by
          have := hk.record?_eq_some_iff.2 ⟨hloc.record, hloc.recordEntity, hloc.recordId⟩
          exact Option.some.inj (this.symm.trans hr)
        subst hrr
        rw [opened_plan, opened_current, beq_iff_eq] at hsource
        exact ⟨p, r', hloc, hsource, hfree, rfl, rfl⟩
      · cases h
  · rintro ⟨p, r, hloc, hsource, hfree, rfl, rfl⟩
    have hr := hk.record?_eq_some_iff.2 ⟨hloc.record, hloc.recordEntity, hloc.recordId⟩
    rw [(plan_eq_ok_iff ht hk).2 ⟨r, hloc⟩, ok_bind,
      openRecord_eq_ok_iff.2 ⟨t, r, ht, hr, hfree, rfl, rfl⟩]
    dsimp only
    rw [if_pos]
    rw [opened_plan, opened_current, hsource, beq_self_eq_true]

/-- To load a record there have to be tables. -/
theorem reached?_tables {s u : System} {m : Move} {o : Opened} (h : reached? s m = some (o, u)) :
    ∃ t, s.database.tables = some t := by
  rw [reached?] at h
  split at h
  · cases h
  · rename_i hopen
    obtain ⟨p, -, hopen⟩ := bind_eq_ok_iff.1 hopen
    obtain ⟨t, r, ht, -⟩ := openRecord_eq_ok_iff.1 hopen
    exact ⟨t, ht⟩

/-- What is known when a move comes to the look-up of roles. -/
theorem reached?_cases {s u : System} (hk : s.database.Keyed) {m : Move} {o : Opened}
    (h : reached? s m = some (o, u)) :
    ∃ t p r, s.database.tables = some t ∧ Located t m p r ∧
      p.transition.fromState = (Record.currentState r.state p.workflow).state ∧
      ((Record.currentState r.state p.workflow).defaulted = true → s.database.locked = false) ∧
      o = opened t m p r s.now ∧ u = s.withDatabase (held s.database o) := by
  obtain ⟨t, ht⟩ := reached?_tables h
  obtain ⟨p, r, hreached⟩ := (reached?_eq_some_iff ht (hk t ht)).1 h
  exact ⟨t, p, r, ht, hreached⟩

section Execute

variable {β : Type} {s u : System} {m : Move} {o : Opened}

/-- A move that does not come to the look-up of roles leaves the system as it was, and nothing runs
meanwhile. -/
theorem execute_of_none (h : reached? s m = none) (meanwhile : System → β × System) :
    ∃ e, execute s m meanwhile = (.error e, none, s) := by
  rw [reached?] at h
  rw [execute]
  split
  · exact ⟨_, rfl⟩
  · rename_i o db hopen
    rw [hopen] at h
    dsimp only at h
    split at h
    · cases h
    · rename_i hsource
      exact ⟨_, by rw [if_neg hsource]⟩

/-- A move that comes to the look-up of roles is finished after what runs meanwhile. -/
theorem execute_of_some (h : reached? s m = some (o, u)) (meanwhile : System → β × System) :
    execute s m meanwhile =
      ((finish (interlude u o.plan.transition meanwhile).2 m o).1,
        (interlude u o.plan.transition meanwhile).1,
        (finish (interlude u o.plan.transition meanwhile).2 m o).2) := by
  rw [reached?] at h
  rw [execute]
  split
  · rename_i e hopen
    rw [hopen] at h
    cases h
  · rename_i o' db hopen
    rw [hopen] at h
    dsimp only at h
    split at h
    · rename_i hsource
      cases h
      rw [if_pos hsource]
    · cases h

end Execute

/-- While roles are looked up, other steps run only if there are roles to look up. -/
theorem interlude_snd {β : Type} (s : System) (u : Transition) (meanwhile : System → β × System) :
    (interlude s u meanwhile).2 = if u.isRestricted then (meanwhile s).2 else s := by
  rw [interlude]; split <;> rfl

/-! ## Finishing -/

/-- The gates that stand between a loaded record and its new state. -/
def cleared (s : System) (m : Move) (o : Opened) : Result Unit := do
  authorize s.database m o.plan.transition
  checkRules s.database s.limits m o

theorem cleared_eq_ok_iff {s : System} {t : Tables} (ht : s.database.tables = some t)
    (hk : t.Keyed) {m : Move} {o : Opened} (he : o.plan.entity ∈ t.entities) :
    cleared s m o = .ok () ↔ Authorized t m.actor o.plan.transition ∧
      Met s.limits t o.plan.entity o.record.data o.plan.transition m.actor := by
  rw [cleared, bind_eq_ok_iff, ← authorize_eq_ok_iff ht, ← checkRules_eq_ok_iff ht hk he]
  exact ⟨fun ⟨_, h⟩ => h, fun h => ⟨(), h⟩⟩

theorem complete_eq_ok_iff {db db' : Database} {m : Move} {o : Opened} {old : Record}
    (hold : o.tx.loaded.get? m.recordId = some old) {savedAt performedAt : Moment}
    {result : TransitionResult} :
    complete db savedAt m o performedAt = .ok (result, db') ↔
      (auditEntry m o performedAt).IsWritable ∧
      ∃ t, o.tx.view db = some t ∧ (o.tx.pending = none → db.locked = false) ∧
        (∃ x ∈ t.records, x.id = old.id ∧ x.version = old.version) ∧
        result = report m o performedAt ∧
        db' = { tables := some
                  ((t.put (old.saved o.plan.transition.toState m.actor savedAt)).addEntry
                  ((auditEntry m o performedAt).kept (freshId (t.audit.filterMap AuditEntry.id))
                    (some []))),
                locked := false } := by
  rw [complete, bind_eq_ok_iff]
  constructor
  · rintro ⟨⟨record, tx, db₁⟩, hsave, h⟩
    obtain ⟨old', t, hold', ht, hfree, hx, rfl, rfl, rfl⟩ :=
      Transaction.saveState_eq_ok_iff.1 (mapError_eq_ok_iff.1 hsave)
    rw [hold] at hold'
    cases hold'
    obtain ⟨⟨given, tx, db₂⟩, hentry, h⟩ := bind_eq_ok_iff.1 h
    obtain ⟨hwritable, metadata, u, id, hm, hu, -, rfl, -, rfl, rfl, rfl⟩ :=
      Transaction.appendAudit_eq_ok_iff.1 (mapError_eq_ok_iff.1 hentry)
    cases hm
    cases hu
    cases h
    exact ⟨hwritable, t, ht, hfree, hx, rfl, rfl⟩
  · rintro ⟨hwritable, t, ht, hfree, hx, rfl, rfl⟩
    refine ⟨_, mapError_eq_ok_iff.2 (Transaction.saveState_eq_ok_iff.2
      ⟨old, t, hold, ht, hfree, hx, rfl, rfl, rfl⟩), ?_⟩
    refine bind_eq_ok_iff.2 ⟨_, mapError_eq_ok_iff.2 (Transaction.appendAudit_eq_ok_iff.2
      ⟨hwritable, some [], _, _, rfl, rfl, nofun, rfl, fun a ha hid => ?_, rfl, rfl, rfl⟩), rfl⟩
    exact idOr_none_not_mem _ (List.mem_filterMap.2 ⟨a, ha, hid⟩)

theorem finish_eq (s : System) (m : Move) (o : Opened) :
    finish s m o =
      match cleared s m o with
      | .error e => (.error e, s.withDatabase (o.tx.rollback s.database))
      | .ok () =>
        match complete s.database s.now m o (.ofClock s.clock) with
        | .error e => (.error e, s.tick.2.withDatabase (o.tx.rollback s.database))
        | .ok (result, db) => (.ok result, s.tick.2.withDatabase db) := rfl

/-- A move that fails at the end leaves the system to its transaction, which takes back what it has
written; one that succeeds has passed its gates and written all it had to write. -/
theorem finish_cases (s : System) (m : Move) (o : Opened) :
    (∃ e, (finish s m o).1 = .error e ∧ (finish s m o).2.limits = s.limits ∧
        (finish s m o).2.database = o.tx.rollback s.database) ∨
      ∃ result db, cleared s m o = .ok () ∧
        complete s.database s.now m o (.ofClock s.clock) = .ok (result, db) ∧
        finish s m o = (.ok result, s.tick.2.withDatabase db) := by
  rw [finish_eq]
  cases hcleared : cleared s m o with
  | error e => exact Or.inl ⟨e, rfl, rfl, rfl⟩
  | ok _ =>
    dsimp only
    cases hcomplete : complete s.database s.now m o (.ofClock s.clock) with
    | error e => exact Or.inl ⟨e, rfl, rfl, rfl⟩
    | ok done => exact Or.inr ⟨done.1, done.2, rfl, rfl, rfl⟩

/-- The end of a move does not change the clock on the wall. -/
theorem finish_now (s : System) (m : Move) (o : Opened) : (finish s m o).2.now = s.now := by
  rw [finish_eq]
  cases cleared s m o with
  | error e => rfl
  | ok _ =>
    dsimp only
    cases complete s.database s.now m o (.ofClock s.clock) <;> rfl

theorem finish_eq_of_ok {s : System} {m : Move} {o : Opened} {result : TransitionResult}
    {db : Database} (hcleared : cleared s m o = .ok ())
    (hcomplete : complete s.database s.now m o (.ofClock s.clock) = .ok (result, db)) :
    finish s m o = (.ok result, s.tick.2.withDatabase db) := by
  rw [finish_eq, hcleared]
  dsimp only
  rw [hcomplete]

theorem finish_eq_of_error {s : System} {m : Move} {o : Opened} {e : Failure}
    (hcleared : cleared s m o = .ok ())
    (hcomplete : complete s.database s.now m o (.ofClock s.clock) = .error e) :
    (finish s m o).1 = .error e := by
  rw [finish_eq, hcleared]
  dsimp only
  rw [hcomplete]

/-- The last writes of a move that has loaded a record from tables that have grown since. -/
theorem complete_opened_eq_ok_iff {db db' : Database} {t t' : Tables} {m : Move} {p : Plan}
    {r : Record} {openedAt savedAt performedAt : Moment} (ht : db.tables = some t')
    (hk : t'.Keyed) (hloc : Located t m p r)
    (hgrows : t.Grows t') (hheld : Record.unset r.state = true → t' = t)
    (hfree : Record.unset r.state = false → db.locked = false) {result : TransitionResult} :
    complete db savedAt m (opened t m p r openedAt) performedAt = .ok (result, db') ↔
      r ∈ t'.records ∧ Writable m p r ∧
        result = report m (opened t m p r openedAt) performedAt ∧
        db' = { tables := some (t'.moved m p r savedAt performedAt), locked := false } := by
  have hentry : ∀ id, (auditEntry m (opened t m p r openedAt) performedAt).kept id (some []) =
      movedEntry m p r id performedAt := by
    intro id
    rw [auditEntry, opened_plan, opened_current]
    rfl
  have hwritable : (auditEntry m (opened t m p r openedAt) performedAt).IsWritable ↔
      Writable m p r := by
    rw [auditEntry, opened_plan, opened_current]
    rfl
  rw [complete_eq_ok_iff (opened_loaded t m p r openedAt), opened_plan, hwritable,
    and_left_comm (a := r ∈ t'.records)]
  refine and_congr_right fun _ => ?_
  simp only [hentry]
  cases hunset : Record.unset r.state with
  | false =>
    obtain ⟨hrecord, hpending⟩ := opened_of_set t m openedAt
      (Record.currentState_defaulted (w := p.workflow).trans hunset)
    have hmoved : r.saved p.transition.toState m.actor savedAt = movedRecord m p r savedAt := by
      rw [movedRecord, hunset]; rfl
    rw [Transaction.view, hpending, hrecord, hmoved]
    constructor
    · rintro ⟨u, hu, -, ⟨x, hx, hid, hversion⟩, rfl, rfl⟩
      have hut : t' = u := Option.some.inj (ht.symm.trans hu)
      subst hut
      have hxr : x = r := hgrows.eq_of_version hk hloc.record hx hid hversion
      exact ⟨hxr ▸ hx, rfl, rfl⟩
    · rintro ⟨hr, rfl, rfl⟩
      exact ⟨t', ht, fun _ => hfree hunset, ⟨r, hr, rfl, rfl⟩, rfl, rfl⟩
  | true =>
    obtain ⟨hrecord, hpending⟩ := opened_of_unset t m openedAt
      (Record.currentState_defaulted (w := p.workflow).trans hunset)
    have hmoved : (r.saved p.workflow.initialState m.actor openedAt).saved p.transition.toState
        m.actor savedAt = movedRecord m p r savedAt := by
      rw [movedRecord, hunset, if_pos rfl, Record.saved, Record.saved_version, Int.add_assoc]
      rfl
    have htt := hheld hunset
    subst htt
    have hput : (t'.put (r.saved p.workflow.initialState m.actor openedAt)).put
        (movedRecord m p r savedAt) = t'.put (movedRecord m p r savedAt) := Tables.put_put t' rfl
    rw [Transaction.view, hpending, hrecord, hmoved]
    constructor
    · rintro ⟨u, hu, -, -, rfl, rfl⟩
      cases hu
      rw [hput]
      exact ⟨hloc.record, rfl, rfl⟩
    · rintro ⟨-, rfl, rfl⟩
      refine ⟨_, rfl, fun hnone => absurd hnone (Option.some_ne_none _),
        ⟨_, Tables.mem_put hloc.record rfl rfl, rfl, rfl⟩, rfl, ?_⟩
      rw [hput]
      rfl

/-- **The end of a move.**  It starts in tables that have grown since the record was loaded, and
that are still the same if the move itself holds the write lock.  It succeeds exactly if the record
has not changed, the gates are open now and its audit entry can be written; what it leaves behind is
as if the whole move had been made in one step now. -/
theorem finish_eq_ok_iff {s after : System} {t t' : Tables} {m : Move} {p : Plan} {r : Record}
    {openedAt : Moment} (ht : s.database.tables = some t') (hk : t'.Keyed) (hloc : Located t m p r)
    (hgrows : t.Grows t')
    (hheld : Record.unset r.state = true → t' = t)
    (hfree : Record.unset r.state = false → s.database.locked = false) {result : TransitionResult} :
    finish s m (opened t m p r openedAt) = (.ok result, after) ↔
      r ∈ t'.records ∧ Authorized t' m.actor p.transition ∧
        Met s.limits t' p.entity r.data p.transition m.actor ∧ Writable m p r ∧
        result = report m (opened t m p r openedAt) (.ofClock s.clock) ∧
        after = s.tick.2.withDatabase
          { tables := some (t'.moved m p r s.now (.ofClock s.clock)), locked := false } := by
  have he : (opened t m p r openedAt).plan.entity ∈ t'.entities := by
    rw [opened_plan]; exact hgrows.entities.subset hloc.entity
  have hcleared := cleared_eq_ok_iff (m := m) ht hk he
  rw [opened_plan, opened_data] at hcleared
  constructor
  · intro h
    rcases finish_cases s m (opened t m p r openedAt) with
      ⟨e, he, -⟩ | ⟨done, db, hclear, hdone, hfinish⟩
    · rw [h] at he
      cases he
    · rw [h] at hfinish
      cases hfinish
      obtain ⟨hauthorized, hmet⟩ := hcleared.1 hclear
      obtain ⟨hr, hwritable, rfl, rfl⟩ :=
        (complete_opened_eq_ok_iff ht hk hloc hgrows hheld hfree).1 hdone
      exact ⟨hr, hauthorized, hmet, hwritable, rfl, rfl⟩
  · rintro ⟨hr, hauthorized, hmet, hwritable, rfl, rfl⟩
    exact finish_eq_of_ok (hcleared.2 ⟨hauthorized, hmet⟩)
      ((complete_opened_eq_ok_iff ht hk hloc hgrows hheld hfree).2 ⟨hr, hwritable, rfl, rfl⟩)

end Workflow
end RecordRules
