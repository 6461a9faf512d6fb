import RecordRules.Proofs.Workflow.Course
import RecordRules.Proofs.System.Operations

/-!
# Changes of the tables

Whatever runs, the tables only ever change in one of a few ways, each of which happens as a whole:
a row is added, a record moves along a transition, a script commits what it has written, or the
tables are made or dropped.

* `Write` is what a script writes, and `Tables.Written` what its writes together make of the tables.
* `Change` is a change that is visible to everybody, and `Change.Makes` says when it can happen and
  what it leaves behind.
* `History` is a list of changes one after the other.  `History.keyed` and `History.grows` carry
  over to it what a single change does to the keys and to the rows that were there.
-/

set_option autoImplicit false

namespace RecordRules

open Workflow

/-! ## Scripts -/

/-- What a script writes. -/
inductive Write where
  /-- A new state of a record, and when it is written. -/
  | save (recordId state : String) (actor : Option String) (savedAt : Moment)
  | entry (entry : AuditEntry)

namespace Write

/-- The tables after the write. -/
def apply (t : Tables) : Write → Tables
  | .save recordId state actor savedAt => t.save recordId state actor savedAt
  | .entry a => t.addEntry a

/-- The record is there, or the id of the entry is not taken. -/
def Fits (t : Tables) : Write → Prop
  | .save recordId _ _ _ => ∃ r ∈ t.records, r.id = recordId
  | .entry a => ∀ x ∈ t.audit, x.id ≠ a.id

/-- The id of the record whose state is written. -/
def savedId? : Write → Option String
  | .save recordId _ _ _ => some recordId
  | .entry _ => none

theorem keyed {t : Tables} (h : t.Keyed) {w : Write} (hw : w.Fits t) : (w.apply t).Keyed := by
  cases w with
  | save recordId state actor savedAt => exact h.save recordId state actor savedAt
  | entry a => exact h.addEntry hw

theorem grows (t : Tables) (w : Write) : t.Grows (w.apply t) := by
  cases w with
  | save recordId state actor savedAt => exact t.grows_save recordId state actor savedAt
  | entry a => exact t.grows_addEntry a

end Write

namespace Tables

/-- The second tables are what some writes, one after the other, make of the first. -/
inductive Written (t : Tables) : List Write → Tables → Prop
  | nil : Written t [] t
  | snoc {u : Tables} {ws : List Write} {w : Write} (h : Written t ws u) (hw : w.Fits u) :
    Written t (ws ++ [w]) (w.apply u)

theorem Written.keyed {t u : Tables} {ws : List Write} (h : t.Written ws u) (hk : t.Keyed) :
    u.Keyed := by
  induction h with
  | nil => exact hk
  | snoc _ hw ih => exact Write.keyed ih hw

theorem Written.grows {t u : Tables} {ws : List Write} (h : t.Written ws u) : t.Grows u := by
  induction h with
  | nil => exact .refl t
  | snoc _ _ ih => exact ih.trans (Write.grows _ _)

/-- A record has changed: it is there in a later version. -/
def Overtaken (u : Tables) (r : Record) : Prop :=
  ∃ s ∈ u.records, r.Precedes s ∧ r.version < s.version

theorem Overtaken.mono {u v : Tables} {r : Record} (h : u.Overtaken r) (hgrows : u.Grows v) :
    v.Overtaken r := by
  obtain ⟨s, hs, hrs, hlt⟩ := h
  obtain ⟨x, hx, hsx⟩ := hgrows.records s hs
  exact ⟨x, hx, hrs.trans hsx, Int.lt_of_lt_of_le hlt hsx.version⟩

/-- What has changed is no longer there in its earlier form. -/
theorem Overtaken.version_ne {u : Tables} (hk : u.Keyed) {r s : Record} (h : u.Overtaken r)
    (hs : s ∈ u.records) (hid : s.id = r.id) : s.version ≠ r.version := by
  obtain ⟨x, hx, hrx, hlt⟩ := h
  rw [List.inj_on_of_nodup_map hk.records hs hx (hid.trans hrx.id.symm)]
  exact Int.ne_of_gt hlt

theorem overtaken_save {t : Tables} {r : Record} (hr : r ∈ t.records) (state : String)
    (actor : Option String) (savedAt : Moment) : (t.save r.id state actor savedAt).Overtaken r := by
  refine ⟨r.saved state actor savedAt, List.mem_map.2 ⟨r, hr, ?_⟩,
    r.precedes_saved state actor savedAt, ?_⟩
  · rw [beq_self_eq_true, if_pos rfl]
  · rw [Record.saved_version]
    exact Int.lt_succ _

/-- A record is in a later version after any of its saves, whatever else is written. -/
theorem Written.overtaken {t u : Tables} {ws : List Write} (h : t.Written ws u) {r : Record}
    (hr : r ∈ t.records) (hid : r.id ∈ ws.filterMap Write.savedId?) : u.Overtaken r := by
  induction h with
  | nil => cases hid
  | @snoc u ws w h hw ih =>
    rw [List.filterMap_append, List.mem_append] at hid
    rcases hid with hid | hid
    · exact (ih hid).mono (Write.grows _ _)
    · cases w with
      | entry a => cases hid
      | save recordId state actor savedAt =>
        have hsaved : r.id = recordId := List.mem_singleton.1 hid
        obtain ⟨s, hs, hrs⟩ := h.grows.records r hr
        obtain ⟨x, hx, hsx, hlt⟩ := overtaken_save hs state actor savedAt
        rw [hrs.id, hsaved] at hx
        exact ⟨x, hx, hrs.trans hsx, Int.lt_of_le_of_lt hrs.version hlt⟩

end Tables

/-! ## Moves -/

namespace Workflow

/-- A move that has not written before its end writes like any script. -/
theorem complete_written {db db' : Database} {m : Move} {o : Opened} {old : Record}
    {savedAt performedAt : Moment} {result : TransitionResult}
    (hold : o.tx.loaded.get? m.recordId = some old) (hpending : o.tx.pending = none)
    (hk : db.Keyed) (h : complete db savedAt m o performedAt = .ok (result, db')) :
    ∃ t u writes, db.tables = some t ∧ t.Written writes u ∧
      db' = { tables := some u, locked := false } := by
  obtain ⟨-, t, ht, -, ⟨x, hx, hid, hversion⟩, -, rfl⟩ := (complete_eq_ok_iff hold).1 h
  rw [Transaction.view, hpending] at ht
  have hsave := Tables.Written.nil.snoc
    (show (Write.save old.id o.plan.transition.toState m.actor savedAt).Fits t from ⟨x, hx, hid⟩)
  refine ⟨t, _, _, ht, hsave.snoc (w := .entry ((auditEntry m o performedAt).kept
    (freshId (t.audit.filterMap AuditEntry.id)) (some []))) fun a ha hida => ?_, ?_⟩
  · exact freshId_not_mem _ (List.mem_filterMap.2 ⟨a, ha, hida⟩)
  · rw [(hk t ht).put_saved hx hid hversion]
    rfl

section MovedRecord

variable (m : Move) (p : Plan) (r : Record) (savedAt : Moment)

theorem restated_movedRecord :
    Transaction.restated (movedRecord m p r savedAt) r = movedRecord m p r savedAt := rfl

theorem movedRecord_version : r.version < (movedRecord m p r savedAt).version := by
  rw [movedRecord]
  dsimp only
  split <;> omega

theorem precedes_movedRecord : r.Precedes (movedRecord m p r savedAt) := by
  have hlt := movedRecord_version m p r savedAt
  exact ⟨rfl, rfl, rfl, Int.le_of_lt hlt, fun h => absurd h (Int.ne_of_gt hlt)⟩

end MovedRecord

end Workflow

namespace Tables

theorem Keyed.grows_put {t : Tables} (h : t.Keyed) {r s : Record} (hr : r ∈ t.records)
    (hrs : r.Precedes s) (hs : Transaction.restated s r = s) : t.Grows (t.put s) := by
  refine { Grows.refl t with records := fun x hx => ⟨_, List.mem_map_of_mem hx, ?_⟩ }
  split
  · rename_i hid
    rw [List.inj_on_of_nodup_map h.records hx hr ((beq_iff_eq.1 hid).trans hrs.id), hs]
    exact hrs
  · exact .refl x

section Moved

variable {t : Tables} (h : t.Keyed) {m : Move} {p : Plan} {r : Record} (hr : r ∈ t.records)
  (savedAt performedAt : Moment)
include h

theorem Keyed.moved : (t.moved m p r savedAt performedAt).Keyed := by
  refine (h.put _).addEntry fun x hx hid => ?_
  exact freshId_not_mem _ (List.mem_filterMap.2 ⟨x, hx, hid⟩)

include hr

theorem Keyed.grows_moved : t.Grows (t.moved m p r savedAt performedAt) :=
  (h.grows_put hr (precedes_movedRecord m p r _) (restated_movedRecord m p r _)).trans
    (grows_addEntry _ _)

omit h in
theorem overtaken_moved : (t.moved m p r savedAt performedAt).Overtaken r :=
  ⟨_, mem_put hr rfl (restated_movedRecord m p r savedAt), precedes_movedRecord m p r savedAt,
    movedRecord_version m p r savedAt⟩

end Moved
end Tables

/-! ## Changes -/

/-- A change of the tables that everybody sees from then on. -/
inductive Change where
  | insert (row : Insert)
  /-- A move of a record, in the form that it had before, and when it is written and performed. -/
  | move (move : Move) (plan : Plan) (record : Record) (savedAt performedAt : Moment)
  /-- The end of a script. -/
  | commit (writes : List Write)
  | create
  | drop

/-- A change can be made to the tables, if there are any, and leaves the second ones behind. -/
inductive Change.Makes (limits : Expression.Limits) : Change → Option Tables → Option Tables → Prop
  | insert {t : Tables} {i : Insert} (h : i.Fits t) :
    Makes limits (.insert i) (some t) (some (i.apply t))
  | move {t : Tables} {m : Move} {p : Plan} {r : Record} {savedAt performedAt : Moment}
    (h : Allowed limits t m p r) :
    Makes limits (.move m p r savedAt performedAt) (some t)
      (some (t.moved m p r savedAt performedAt))
  | commit {t u : Tables} {writes : List Write} (h : t.Written writes u) :
    Makes limits (.commit writes) (some t) (some u)
  | create : Makes limits .create none (some {})
  | drop {t : Tables} : Makes limits .drop (some t) none

namespace Change.Makes

variable {limits : Expression.Limits} {c : Change} {o o' : Option Tables} {t : Tables}

theorem keyed (h : c.Makes limits o o') (hk : ∀ t ∈ o, t.Keyed) : ∀ u ∈ o', u.Keyed := by
  intro u hu
  cases h with
  | insert hi =>
    cases hu
    exact Insert.keyed (hk _ rfl) hi
  | move _ =>
    cases hu
    exact (hk _ rfl).moved _ _
  | commit hw =>
    cases hu
    exact hw.keyed (hk _ rfl)
  | create =>
    cases hu
    exact Tables.keyed_empty
  | drop => cases hu

theorem grows (h : c.Makes limits (some t) o') (hk : t.Keyed) (hc : c ≠ .drop) :
    ∃ u, o' = some u ∧ t.Grows u := by
  cases h with
  | insert _ => exact ⟨_, rfl, Insert.grows t _⟩
  | move h => exact ⟨_, rfl, hk.grows_moved h.located.record _ _⟩
  | commit hw => exact ⟨_, rfl, hw.grows⟩
  | drop => exact absurd rfl hc

end Change.Makes

/-! ## Histories -/

/-- Changes that are made one after the other lead from some tables to others. -/
inductive History (limits : Expression.Limits) :
    Option Tables → List Change → Option Tables → Prop
  | nil (o : Option Tables) : History limits o [] o
  | cons {o o₁ o' : Option Tables} {c : Change} {rest : List Change} (h : c.Makes limits o o₁)
    (hrest : History limits o₁ rest o') : History limits o (c :: rest) o'

namespace History

variable {limits : Expression.Limits} {o o₁ o' : Option Tables} {cs ds : List Change}
  {c : Change} {t : Tables}

theorem single (h : c.Makes limits o o') : History limits o [c] o' := .cons h (.nil _)

theorem append (h : History limits o cs o₁) (h' : History limits o₁ ds o') :
    History limits o (cs ++ ds) o' := by
  induction h with
  | nil _ => exact h'
  | cons hc _ ih => exact .cons hc (ih h')

theorem keyed (h : History limits o cs o') (hk : ∀ t ∈ o, t.Keyed) : ∀ u ∈ o', u.Keyed := by
  induction h with
  | nil _ => exact hk
  | cons hc _ ih => exact ih (hc.keyed hk)

/-- As long as they are not dropped, the tables grow. -/
theorem grows (h : History limits (some t) cs o') (hk : t.Keyed) (hdrop : .drop ∉ cs) :
    ∃ u, o' = some u ∧ t.Grows u := by
  generalize ho : some t = o at h
  induction h generalizing t with
  | nil _ => exact ⟨t, ho.symm, .refl t⟩
  | @cons _ _ _ c rest hc _ ih =>
    subst ho
    rw [List.mem_cons, not_or] at hdrop
    obtain ⟨u, rfl, htu⟩ := hc.grows hk (Ne.symm hdrop.1)
    have hku : u.Keyed := hc.keyed (fun _ ht => by cases ht; exact hk) u rfl
    obtain ⟨v, hv, huv⟩ := ih hku hdrop.2 rfl
    exact ⟨v, hv, htu.trans huv⟩

/-- Rows that are added one after the other are a history. -/
theorem of_insertsAll {db db' : Database} {is : List Insert} (h : db.InsertsAll is db') :
    History limits db.tables (is.map .insert) db'.tables ∧ db'.locked = db.locked := by
  induction h with
  | nil db => exact ⟨.nil _, rfl⟩
  | cons hi _ ih =>
    obtain ⟨t, ht, -, hfits, rfl⟩ := hi
    rw [ht]
    exact ⟨.cons (.insert hfits) ih.1, ih.2⟩

end History
end RecordRules
