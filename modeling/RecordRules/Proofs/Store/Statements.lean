import Mathlib.Data.List.TakeWhile
import RecordRules.Proofs.Store.Inserts

/-!
# Statements of transactions

What loading a record, saving a state and adding an audit entry do to a transaction and to the
database under it.

* `Transaction.view` is what a transaction sees: its own changed copy of the tables once it has
  written, what is committed before.
* `load_eq_ok_iff`, `saveState_eq_ok_iff` and `appendAudit_eq_ok_iff` say when a statement succeeds
  and what it leaves behind.
* `saveState_locked` and `saveState_stale` are the two ways in which another writer makes a save
  fail.
-/

set_option autoImplicit false

namespace RecordRules

namespace Tables

/-- The tables with a new form of a record in its row. -/
def put (t : Tables) (record : Record) : Tables :=
  { t with records := t.records.map fun r =>
      if r.id == record.id then Transaction.restated record r else r }

/-- To put the next version of a record into its row is to save it there. -/
theorem Keyed.put_saved {t : Tables} (h : t.Keyed) {x old : Record} (hx : x ∈ t.records)
    (hid : x.id = old.id) (hversion : x.version = old.version) (state : String)
    (actor : Option String) (savedAt : Moment) :
    t.put (old.saved state actor savedAt) = t.save old.id state actor savedAt := by
  rw [Tables.put, Tables.save, Record.saved_id]
  congr 1
  refine List.map_congr_left fun y hy => ?_
  by_cases hyid : y.id = old.id
  · rw [List.inj_on_of_nodup_map h.records hy hx (hyid.trans hid.symm), Transaction.restated,
      Record.saved_version, ← hversion]
    rfl
  · simp [hyid]

theorem put_ids (t : Tables) (r : Record) :
    (t.put r).records.map Record.id = t.records.map Record.id := by
  rw [put, List.map_map]
  refine List.map_congr_left fun x _ => ?_
  rw [Function.comp_apply]
  split <;> rfl

theorem Keyed.put {t : Tables} (h : t.Keyed) (r : Record) : (t.put r).Keyed :=
  { h with records := by rw [put_ids]; exact h.records }

end Tables

/-- The failure is a fault of some kind. -/
def Failure.IsOf (kind : Fault.Kind) (e : Failure) : Prop := ∃ f, e = .fault f ∧ f.kind = kind

instance (kind : Fault.Kind) : (e : Failure) → Decidable (e.IsOf kind)
  | .fault f => decidable_of_iff (f.kind = kind)
      ⟨fun h => ⟨f, rfl, h⟩, fun ⟨_, heq, h⟩ => Failure.fault.inj heq ▸ h⟩
  | .violations .. => isFalse nofun
  | .mishap _ => isFalse nofun

/-- A failure is of one kind only. -/
theorem Failure.IsOf.unique {kind kind' : Fault.Kind} {e : Failure} (h : e.IsOf kind)
    (h' : e.IsOf kind') : kind = kind' := by
  obtain ⟨f, rfl, rfl⟩ := h
  obtain ⟨f', heq, rfl⟩ := h'
  rw [Failure.fault.inj heq]

/-- The facts of a fault do not change its kind. -/
theorem Fault.foldl_report_kind (facts : Fields Value) (rules : List (String × Reported))
    (fault : Fault) : (rules.foldl (report facts) fault).kind = fault.kind := by
  induction rules generalizing fault with
  | nil => rfl
  | cons rule rest ih =>
    rw [List.foldl_cons, ih, report]
    split
    · rfl
    · split <;> rfl

theorem Fault.of_kind (kind : Kind) (message : String) (facts : Fields Value) :
    (Fault.of kind message facts).kind = kind :=
  Fault.foldl_report_kind facts kind.facts _

/-- The entry as it is kept, under an id. -/
def AuditEntry.kept (a : AuditEntry) (id : String) (metadata : Option (Fields Value)) :
    AuditEntry :=
  { a with id := some id, metadata, performedAt := a.performedAt.withoutOffset }

/-- Every character of an entry's texts is whole, so that they can be written as bytes. -/
def AuditEntry.IsWritable (a : AuditEntry) : Prop := ∀ s ∈ a.texts, Text.hasHalf s = false

theorem Text.encodingProblem?_eq_none_iff {s : String} :
    encodingProblem? s = none ↔ hasHalf s = false := by
  have hdrop : (s.toList.dropWhile fun c => !(half? c).isSome) = [] ↔ hasHalf s = false := by
    rw [List.dropWhile_eq_nil_iff, hasHalf, List.any_eq_false]
    simp
  rw [← hdrop, encodingProblem?]
  dsimp only
  split <;> simp_all

theorem AuditEntry.isWritable_iff {a : AuditEntry} :
    a.IsWritable ↔ a.texts.findSome? Text.encodingProblem? = none := by
  simp only [List.findSome?_eq_none_iff, Text.encodingProblem?_eq_none_iff, IsWritable]

namespace Transaction

variable {α : Type} {tx tx' : Transaction} {db db' : Database}

/-- The tables that the transaction sees. -/
def view (tx : Transaction) (db : Database) : Option Tables :=
  match tx.pending with
  | some t => some t
  | none => db.tables

theorem rows_eq_ok_iff {table : Table} {t : Tables} :
    tx.rows db table = .ok t ↔ tx.view db = some t := by
  rw [rows, view]
  cases tx.pending with
  | some p => simp
  | none => rw [mapError_eq_ok_iff, Database.rows]; cases db.tables <;> simp

/-! ## Loading -/

/-- The transaction once it has loaded a record, which it knows in the form it saw first. -/
def afterLoad (tx : Transaction) (entityId recordId : String) (stored : Record) : Transaction :=
  { tx with loaded := tx.loaded.set recordId ((tx.loaded.get? recordId).getD stored)
            latest := some (entityId, recordId) }

theorem load_eq_ok_iff {entityId recordId : String} {found : Option Record} :
    tx.load db entityId recordId = .ok (found, tx') ↔
      ∃ t, tx.view db = some t ∧
        match t.record? entityId recordId with
        | none => found = none ∧ tx' = tx
        | some stored => found = some ((tx.loaded.get? recordId).getD stored) ∧
            tx' = tx.afterLoad entityId recordId stored := by
  rw [load, bind_eq_ok_iff]
  refine exists_congr fun t => and_congr rows_eq_ok_iff ?_
  cases t.record? entityId recordId with
  | none => simp [eq_comm]
  | some stored => simp [eq_comm, afterLoad]

/-! ## Writing -/

theorem write_eq_ok_iff {table : Table} {action : Tables → Outcome (α × Tables)} {a : α} :
    tx.write db table action = .ok (a, tx', db') ↔
      ∃ t u, tx.view db = some t ∧ (tx.pending = none → db.locked = false) ∧
        action t = .ok (a, u) ∧ tx' = { tx with pending := some u } ∧
        db' = { db with locked := true } := by
  rw [write, bind_eq_ok_iff]
  constructor
  · rintro ⟨t, ht, h⟩
    split at h
    · cases h
    · rename_i hfree
      obtain ⟨⟨b, u⟩, hu, h⟩ := bind_eq_ok_iff.1 h
      cases h
      refine ⟨t, u, rows_eq_ok_iff.1 ht, fun hp => ?_, hu, rfl, rfl⟩
      simpa [hp] using hfree
  · rintro ⟨t, u, ht, hfree, hu, rfl, rfl⟩
    refine ⟨t, rows_eq_ok_iff.2 ht, ?_⟩
    rw [if_neg, hu]
    · rfl
    · intro hboth
      obtain ⟨hp, hl⟩ := Bool.and_eq_true_iff.1 hboth
      rw [hfree (Option.isNone_iff_eq_none.1 hp)] at hl
      cases hl

/-- A transaction that has not written yet cannot write while another one does. -/
theorem write_locked (hp : tx.pending = none) (hl : db.locked = true) (table : Table)
    (action : Tables → Outcome (α × Tables)) :
    ∃ r, tx.write db table action = .error (.refused r) ∧
      (r = .locked ∨ r = .noTable table.label) := by
  rw [write, rows, hp, Database.rows]
  cases db.tables with
  | none => exact ⟨_, rfl, Or.inr rfl⟩
  | some t =>
    rw [hl]
    exact ⟨_, rfl, Or.inl rfl⟩

theorem replaceRecord_eq_ok_iff {t : Tables} {version : Int} {record : Record}
    {records : List Record} :
    replaceRecord t.records version record = .ok records ↔
      (∃ r ∈ t.records, r.id = record.id ∧ r.version = version) ∧
        records = (t.put record).records := by
  rw [replaceRecord, Tables.put]
  have hany : (t.records.any fun r => r.id == record.id && r.version == version) = true ↔
      ∃ r ∈ t.records, r.id = record.id ∧ r.version = version := by
    simp [List.any_eq_true]
  by_cases h : ∃ r ∈ t.records, r.id = record.id ∧ r.version = version
  · rw [if_pos (hany.2 h), Except.ok.injEq, eq_comm, and_iff_right h]
  · rw [if_neg (mt hany.1 h), iff_false_left (fun hok => by cases hok)]
    exact fun hboth => h hboth.1

/-- The transaction once it has saved a record, of which it saw the tables. -/
def afterSave (tx : Transaction) (recordId : String) (t : Tables) (record : Record) : Transaction :=
  { tx with loaded := tx.loaded.set recordId record, pending := some (t.put record) }

theorem saveState_eq_ok_iff {recordId state : String} {actor : Option String} {savedAt : Moment}
    {record : Record} :
    tx.saveState db recordId state actor savedAt = .ok (record, tx', db') ↔
      ∃ old t, tx.loaded.get? recordId = some old ∧ tx.view db = some t ∧
        (tx.pending = none → db.locked = false) ∧
        (∃ r ∈ t.records, r.id = old.id ∧ r.version = old.version) ∧
        record = old.saved state actor savedAt ∧ tx' = tx.afterSave recordId t record ∧
        db' = { db with locked := true } := by
  rw [saveState]
  cases tx.loaded.get? recordId with
  | none => simp
  | some old =>
    simp only [bind_eq_ok_iff, pure_eq_ok, Prod.exists, write_eq_ok_iff, replaceRecord_eq_ok_iff]
    constructor
    · rintro ⟨_, _, _, ⟨t, u, ht, hfree, ⟨records, ⟨hr, rfl⟩, hu⟩, rfl, rfl⟩, h⟩
      cases hu
      cases h
      exact ⟨old, t, rfl, ht, hfree, hr, rfl, rfl, rfl⟩
    · rintro ⟨_, t, hold, ht, hfree, hr, rfl, rfl, rfl⟩
      cases hold
      exact ⟨(), _, _, ⟨t, t.put (old.saved state actor savedAt), ht, hfree,
        ⟨_, ⟨hr, rfl⟩, rfl⟩, rfl, rfl⟩, rfl⟩

/-- Nobody can save a record while another transaction is writing. -/
theorem saveState_locked (hp : tx.pending = none) (hl : db.locked = true)
    (recordId state : String) (actor : Option String) (savedAt : Moment) :
    ∃ e, tx.saveState db recordId state actor savedAt = .error e ∧
      (tx.failure e).IsOf .storage := by
  rw [saveState]
  cases tx.loaded.get? recordId with
  | none => exact ⟨_, rfl, _, rfl, rfl⟩
  | some old =>
    dsimp only
    obtain ⟨r, hr, hkind⟩ := write_locked (α := Unit) hp hl .records _
    rw [hr]
    refine ⟨.refused r, rfl, ?_⟩
    rcases hkind with rfl | rfl <;> exact ⟨_, rfl, rfl⟩

/-- A record of which there is another version by now cannot be saved. -/
theorem saveState_stale {recordId : String} {old : Record} {t : Tables}
    (hold : tx.loaded.get? recordId = some old) (hview : tx.view db = some t)
    (hfree : tx.pending = none → db.locked = false)
    (hstale : ∀ r ∈ t.records, r.id = old.id → r.version ≠ old.version) (state : String)
    (actor : Option String) (savedAt : Moment) :
    tx.saveState db recordId state actor savedAt = .error .stale := by
  have hreplace :
      replaceRecord t.records old.version (old.saved state actor savedAt) = .error .stale := by
    rw [replaceRecord, if_neg]
    intro hany
    obtain ⟨r, hr, h⟩ := List.any_eq_true.1 hany
    obtain ⟨hid, hversion⟩ := Bool.and_eq_true_iff.1 h
    exact hstale r hr (beq_iff_eq.1 hid) (beq_iff_eq.1 hversion)
  rw [saveState, hold]
  dsimp only
  rw [write, rows_eq_ok_iff.2 hview, ok_bind, if_neg]
  · rw [Record.saved] at hreplace
    rw [hreplace]
    rfl
  · intro hboth
    obtain ⟨hp, hl⟩ := Bool.and_eq_true_iff.1 hboth
    rw [hfree (Option.isNone_iff_eq_none.1 hp)] at hl
    cases hl

/-- The transaction once it has added an audit entry to the tables that it saw. -/
def afterEntry (tx : Transaction) (t : Tables) (a : AuditEntry) : Transaction :=
  { tx with pending := some (t.addEntry a) }

theorem checkTexts_eq_ok_iff {entry : AuditEntry} {u : Unit} :
    checkTexts entry = .ok u ↔ entry.IsWritable := by
  rw [checkTexts, AuditEntry.isWritable_iff]
  cases entry.texts.findSome? Text.encodingProblem? <;> simp

theorem appendAudit_eq_ok_iff {entry given : AuditEntry} :
    tx.appendAudit db entry = .ok (given, tx', db') ↔
      entry.IsWritable ∧ ∃ metadata t id, keptMetadata entry = .ok metadata ∧ tx.view db = some t ∧
        (tx.pending = none → db.locked = false) ∧
        id = idOr entry.id (t.audit.filterMap AuditEntry.id) ∧ (∀ a ∈ t.audit, a.id ≠ some id) ∧
        given = { entry with id := some id } ∧ tx' = tx.afterEntry t (entry.kept id metadata) ∧
        db' = { db with locked := true } := by
  simp only [appendAudit, bind_eq_ok_iff, mapError_eq_ok_iff, rows_eq_ok_iff, write_eq_ok_iff,
    checkTexts_eq_ok_iff]
  constructor
  · rintro ⟨metadata, hm, t, ht, -, hwritable, u, v, hu, hfree, hv, rfl, rfl⟩
    split at hv
    · cases hv
    · rename_i hnew
      cases hv
      refine ⟨hwritable, metadata, u, _, hm, hu, hfree, rfl, fun a ha hid => hnew ?_, rfl, rfl, rfl⟩
      exact List.any_eq_true.2 ⟨a, ha, beq_iff_eq.2 hid⟩
  · rintro ⟨hwritable, metadata, t, id, hm, ht, hfree, rfl, hnew, rfl, rfl, rfl⟩
    refine ⟨metadata, hm, t, ht, (), hwritable, t, _, ht, hfree, ?_, rfl, rfl⟩
    rw [if_neg]
    · rfl
    · intro hany
      obtain ⟨a, ha, hid⟩ := List.any_eq_true.1 hany
      exact hnew a ha (beq_iff_eq.1 hid)

/-! ## The end -/

theorem commit_of_pending {t : Tables} (h : tx.pending = some t) :
    tx.commit db = { tables := some t, locked := false } := by
  rw [commit, h]

theorem commit_of_none (h : tx.pending = none) : tx.commit db = db := by
  rw [commit, h]

theorem rollback_of_pending {t : Tables} (h : tx.pending = some t) :
    tx.rollback db = { db with locked := false } := by
  rw [rollback, writes, h]
  rfl

theorem rollback_of_none (h : tx.pending = none) : tx.rollback db = db := by
  rw [rollback, writes, h]
  rfl

end Transaction
end RecordRules
