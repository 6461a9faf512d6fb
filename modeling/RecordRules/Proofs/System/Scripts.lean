import RecordRules.Proofs.System.Journal

/-!
# Scripts, part by part

A script is over at its first part that fails; what the parts before it have done is all that there
is to know of it.

* `Scripted.Passes` says what a part of a script does when it succeeds, and `Scripted.PassesAll`
  what several parts do one after the other.  `runScript_passes` is the whole of a script: its parts
  pass up to the one that fails, which does nothing.
* `Action.Puts` is what a part of a script writes, and `Scripted.Holds` ties what a transaction has
  written to what everybody else sees.
* `Tables.Written.eq` says what writes come to: every record is in the last state that was saved of
  it, with the moment of that save and one version later for each, and the entries follow each
  other.
-/

set_option autoImplicit false

namespace RecordRules

/-- A load finds nothing and changes nothing, or it makes a record known. -/
theorem Transaction.load_cases {tx tx' : Transaction} {db : Database} {entityId recordId : String}
    {found : Option Record} (h : tx.load db entityId recordId = .ok (found, tx')) :
    (found = none ∧ tx' = tx) ∨
      ∃ t stored, tx.view db = some t ∧ t.record? entityId recordId = some stored ∧
        found = some ((tx.loaded.get? recordId).getD stored) ∧
        tx' = tx.afterLoad entityId recordId stored := by
  obtain ⟨t, ht, hfound⟩ := load_eq_ok_iff.1 h
  cases hr : t.record? entityId recordId with
  | none =>
    rw [hr] at hfound
    exact .inl hfound
  | some stored =>
    rw [hr] at hfound
    exact .inr ⟨t, stored, ht, hr, hfound⟩

/-- Loading writes nothing. -/
theorem Transaction.load_pending {tx tx' : Transaction} {db : Database} {entityId recordId : String}
    {found : Option Record} (h : tx.load db entityId recordId = .ok (found, tx')) :
    tx'.pending = tx.pending := by
  obtain ⟨-, rfl⟩ | ⟨_, _, -, -, -, rfl⟩ := load_cases h <;> rfl

theorem Tables.record?_id {t : Tables} {entityId recordId : String} {r : Record}
    (h : t.record? entityId recordId = some r) : r ∈ t.records ∧ r.id = recordId := by
  have hr := List.find?_some h
  rw [Bool.and_eq_true, beq_iff_eq, beq_iff_eq] at hr
  exact ⟨List.mem_of_find?_eq_some h, hr.2⟩

/-! ## Parts that succeed -/

namespace Scripted

/-- A part of a script succeeds in the middle of it. -/
inductive Passes (x : Scripted) : Action → Outcome → Scripted → Prop
  | load {entityId recordId : String} {found : Option Record} {tx : Transaction}
    (h : x.tx.load x.system.database entityId recordId = .ok (found, tx)) :
    Passes x (.load entityId recordId) (.record found) { x with tx }
  | save {recordId state : String} {actor : Option String} {old : Record} {v : Tables}
    (hold : x.tx.loaded.get? recordId = some old) (hv : x.tx.view x.system.database = some v)
    (hfree : x.tx.pending = none → x.system.database.locked = false)
    (hrow : ∃ r ∈ v.records, r.id = old.id ∧ r.version = old.version) :
    Passes x (.saveState recordId state actor)
      (.record (some (old.saved state actor x.system.now)))
      { system := x.system.withDatabase { x.system.database with locked := true }
        tx := x.tx.afterSave recordId v (old.saved state actor x.system.now) }
  | entry {entry : AuditEntry} {metadata : Option (Fields Value)} {v : Tables} {id : String}
    (hwritable : entry.IsWritable)
    (hmetadata : Transaction.keptMetadata entry = .ok metadata)
    (hv : x.tx.view x.system.database = some v)
    (hfree : x.tx.pending = none → x.system.database.locked = false)
    (hid : id = idOr entry.id (v.audit.filterMap AuditEntry.id))
    (hnew : ∀ a ∈ v.audit, a.id ≠ some id) :
    Passes x (.appendAudit entry) (.entry { entry with id := some id })
      { system := x.system.withDatabase { x.system.database with locked := true }
        tx := x.tx.afterEntry v (entry.kept id metadata) }
  | outside {steps : List Step} :
    Passes x (.outside steps) (.outside (runAll x.system steps).1)
      { x with system := (runAll x.system steps).2 }

/-- Some parts of a script succeed one after the other. -/
inductive PassesAll : Scripted → List Action → List Outcome → Scripted → Prop
  | nil (x : Scripted) : PassesAll x [] [] x
  | cons {x x₁ y : Scripted} {action : Action} {outcome : Outcome} {rest : List Action}
    {outcomes : List Outcome} (h : x.Passes action outcome x₁)
    (hrest : PassesAll x₁ rest outcomes y) :
    PassesAll x (action :: rest) (outcome :: outcomes) y

end Scripted

/-- A part of a script that succeeds passes. -/
theorem Action.passes_of_run {x x₁ : Scripted} {action : Action} {outcome : Outcome}
    (h : action.run x = (.ok outcome, x₁)) : x.Passes action outcome x₁ := by
  cases action with
  | load entityId recordId =>
    rw [Action.run, Scripted.afterRead.eq_def] at h
    cases hload : x.tx.load x.system.database entityId recordId with
    | error e => rw [hload] at h; cases h
    | ok done => rw [hload] at h; cases h; exact .load hload
  | saveState recordId state actor =>
    rw [Action.run, Scripted.afterWrite.eq_def] at h
    cases hsave : x.tx.saveState x.system.database recordId state actor x.system.now with
    | error e => rw [hsave] at h; cases h
    | ok done =>
      obtain ⟨record, tx, db⟩ := done
      obtain ⟨old, v, hold, hv, hfree, hrow, rfl, rfl, rfl⟩ :=
        Transaction.saveState_eq_ok_iff.1 hsave
      rw [hsave] at h
      cases h
      exact .save hold hv hfree hrow
  | appendAudit entry =>
    rw [Action.run, Scripted.afterWrite.eq_def] at h
    cases hentry : x.tx.appendAudit x.system.database entry with
    | error e => rw [hentry] at h; cases h
    | ok done =>
      obtain ⟨given, tx, db⟩ := done
      obtain ⟨hwritable, metadata, v, id, hmetadata, hv, hfree, hid, hnew, rfl, rfl, rfl⟩ :=
        Transaction.appendAudit_eq_ok_iff.1 hentry
      rw [hentry] at h
      cases h
      exact .entry hwritable hmetadata hv hfree hid hnew
  | outside steps =>
    rw [Action.run] at h
    cases h
    exact .outside
  | fail failure =>
    rw [Action.run] at h
    cases h

/-- A part of a script that passes leaves behind what it runs to. -/
theorem Scripted.Passes.run_snd {x x₁ : Scripted} {action : Action} {outcome : Outcome}
    (h : x.Passes action outcome x₁) : (action.run x).2 = x₁ := by
  cases h with
  | load h =>
    rw [Action.run, h]
    rfl
  | save hold hv hfree hrow =>
    rw [Action.run, Transaction.saveState_eq_ok_iff.2 ⟨_, _, hold, hv, hfree, hrow, rfl, rfl, rfl⟩]
    rfl
  | entry hwritable hmetadata hv hfree hid hnew =>
    rw [Action.run, Transaction.appendAudit_eq_ok_iff.2
      ⟨hwritable, _, _, _, hmetadata, hv, hfree, hid, hnew, rfl, rfl, rfl⟩]
    rfl
  | outside => rw [Action.run]

/-- A part of a script that fails does nothing. -/
theorem Action.eq_of_run_error {x x₁ : Scripted} {action : Action} {e : Failure}
    (h : action.run x = (.error e, x₁)) : x₁ = x := by
  cases action with
  | load entityId recordId =>
    rw [Action.run, Scripted.afterRead.eq_def] at h
    cases hload : x.tx.load x.system.database entityId recordId <;> rw [hload] at h <;> cases h
    rfl
  | saveState recordId state actor =>
    rw [Action.run, Scripted.afterWrite.eq_def] at h
    cases hsave : x.tx.saveState x.system.database recordId state actor x.system.now <;>
      rw [hsave] at h <;> cases h
    rfl
  | appendAudit entry =>
    rw [Action.run, Scripted.afterWrite.eq_def] at h
    cases hentry : x.tx.appendAudit x.system.database entry <;> rw [hentry] at h <;> cases h
    rfl
  | outside steps => rw [Action.run] at h; cases h
  | fail failure => rw [Action.run] at h; cases h; rfl

/-- **A script passes up to the part that fails**, if one does. -/
theorem runScript_passes (script : List Action) (x : Scripted) :
    x.PassesAll (script.take (runScript x script).1.length) (runScript x script).1
      (runScript x script).2.2 := by
  induction script generalizing x with
  | nil => exact .nil x
  | cons action rest ih =>
    rw [runScript]
    cases hrun : action.run x with
    | mk result x₁ =>
      cases result with
      | error e =>
        rw [Action.eq_of_run_error hrun]
        exact .nil x
      | ok outcome => exact .cons (Action.passes_of_run hrun) (ih x₁)

theorem runScript_cons_of_none {action : Action} {rest : List Action} {x y : Scripted}
    {outcomes : List Outcome} (h : runScript x (action :: rest) = (outcomes, none, y)) :
    ∃ outcome x₁ others, action.run x = (.ok outcome, x₁) ∧
      runScript x₁ rest = (others, none, y) ∧ outcomes = outcome :: others := by
  rw [runScript] at h
  cases hrun : action.run x with
  | mk result x₁ =>
    rw [hrun] at h
    cases result with
    | error e => cases h
    | ok outcome =>
      obtain ⟨houtcomes, hlast⟩ := Prod.mk.inj h
      exact ⟨outcome, x₁, _, rfl, Prod.ext rfl hlast, houtcomes.symm⟩

/-- A script that comes to its end has passed as a whole. -/
theorem passesAll_of_runScript {script : List Action} {x y : Scripted} {outcomes : List Outcome}
    (h : runScript x script = (outcomes, none, y)) : x.PassesAll script outcomes y := by
  induction script generalizing x outcomes with
  | nil =>
    cases h
    exact .nil _
  | cons action rest ih =>
    obtain ⟨outcome, x₁, others, hrun, hrest, rfl⟩ := runScript_cons_of_none h
    exact .cons (Action.passes_of_run hrun) (ih hrest)

/-- Behind parts that have passed, a script goes on as it would by itself. -/
theorem runScript_append {done rest : List Action} {x y : Scripted} {outcomes : List Outcome}
    (h : runScript x done = (outcomes, none, y)) :
    runScript x (done ++ rest) = (outcomes ++ (runScript y rest).1, (runScript y rest).2) := by
  induction done generalizing x outcomes with
  | nil =>
    cases h
    rfl
  | cons action done ih =>
    obtain ⟨outcome, x₁, others, hrun, hdone, rfl⟩ := runScript_cons_of_none h
    rw [List.cons_append, runScript, hrun]
    simp only [ih hdone, List.cons_append]

/-! ## What a script writes -/

/-- What a part of a script writes at a moment if it succeeds: a state as it was given, or an entry
in the form in which the store keeps it. -/
inductive Action.Puts (now : Moment) : Action → List Write → Prop
  | load {entityId recordId : String} : Puts now (.load entityId recordId) []
  | save {recordId state : String} {actor : Option String} :
    Puts now (.saveState recordId state actor) [.save recordId state actor now]
  | entry {entry : AuditEntry} {taken : List String} {metadata : Option (Fields Value)}
    (h : Transaction.keptMetadata entry = .ok metadata) :
    Puts now (.appendAudit entry) [.entry (entry.kept (idOr entry.id taken) metadata)]
  | outside {steps : List Step} : Puts now (.outside steps) []

/-- What several parts of a script write, in their order, each at its own moment. -/
inductive Action.PutsAll : Scripted → List Action → List Write → Prop
  | nil {x : Scripted} : PutsAll x [] []
  | cons {x : Scripted} {action : Action} {rest : List Action} {writes more : List Write}
    (h : action.Puts x.system.now writes) (hrest : PutsAll (action.run x).2 rest more) :
    PutsAll x (action :: rest) (writes ++ more)

theorem Action.Puts.savedIds {now : Moment} {action : Action} {writes : List Write}
    (h : action.Puts now writes) :
    writes.filterMap Write.savedId? = action.savedId?.toList := by
  cases h <;> rfl

theorem Action.PutsAll.savedIds {x : Scripted} {script : List Action} {writes : List Write}
    (h : Action.PutsAll x script writes) :
    writes.filterMap Write.savedId? = script.filterMap Action.savedId? := by
  induction h with
  | nil => rfl
  | @cons _ action _ _ _ h _ ih =>
    rw [List.filterMap_append, h.savedIds, ih]
    cases hid : action.savedId? <;> simp [hid]

namespace Scripted

/-- In the middle of a script: what the transaction sees is what everybody else sees with its
writes. -/
structure Holds (x : Scripted) (writes : List Write) : Prop where
  written : ∀ v, x.tx.view x.system.database = some v →
    ∃ t, x.system.database.tables = some t ∧ t.Written writes v
  none : x.tx.pending = none → writes = []
  loaded : ∀ id r, x.tx.loaded.get? id = some r → r.id = id

namespace Holds

variable {x : Scripted} {writes : List Write}

theorem start (s : System) : Holds { system := s } [] :=
  ⟨fun v hv => ⟨v, hv, .nil⟩, fun _ => rfl, fun id r h => by rw [Fields.get?_nil] at h; cases h⟩

theorem view_keyed (h : x.Holds writes) (hk : x.system.database.Keyed) {v : Tables}
    (hv : x.tx.view x.system.database = some v) : v.Keyed := by
  obtain ⟨t, ht, hwritten⟩ := h.written v hv
  exact hwritten.keyed (hk t ht)

/-- A record that is loaded again keeps the form in which the transaction knows it. -/
theorem load (h : x.Holds writes) {entityId recordId : String} {found : Option Record}
    {tx : Transaction}
    (hload : x.tx.load x.system.database entityId recordId = .ok (found, tx)) :
    Holds { x with tx } writes := by
  obtain ⟨-, rfl⟩ | ⟨t, stored, -, hr, -, rfl⟩ := Transaction.load_cases hload
  · exact h
  · refine ⟨h.written, h.none, fun id r hid => ?_⟩
    dsimp only [Transaction.afterLoad] at hid
    by_cases hkey : id = recordId
    · subst hkey
      rw [Fields.get?_set_self] at hid
      cases hold : x.tx.loaded.get? id with
      | none =>
        rw [hold] at hid
        cases hid
        exact (Tables.record?_id hr).2
      | some old =>
        rw [hold] at hid
        cases hid
        exact h.loaded id _ hold
    · rw [Fields.get?_set_other _ _ hkey] at hid
      exact h.loaded id r hid

/-- A write of the script takes the lock, and only the script sees it. -/
theorem write (h : x.Holds writes) {w : Write} {v : Tables} {tx : Transaction}
    (hv : x.tx.view x.system.database = some v) (hw : w.Fits v)
    (hpending : tx.pending = some (w.apply v))
    (hloaded : ∀ id r, tx.loaded.get? id = some r → r.id = id) :
    Holds { system := x.system.withDatabase { x.system.database with locked := true }, tx }
      (writes ++ [w]) := by
  obtain ⟨t, ht, hwritten⟩ := h.written v hv
  refine ⟨fun v' hv' => ?_, fun hnone => ?_, hloaded⟩
  · rw [Transaction.view, hpending] at hv'
    cases hv'
    exact ⟨t, ht, hwritten.snoc hw⟩
  · rw [hpending] at hnone
    cases hnone

theorem save (h : x.Holds writes) (hk : x.system.database.Keyed) {recordId : String} {old : Record}
    {v : Tables} (hold : x.tx.loaded.get? recordId = some old)
    (hv : x.tx.view x.system.database = some v)
    (hrow : ∃ r ∈ v.records, r.id = old.id ∧ r.version = old.version) (state : String)
    (actor : Option String) (savedAt : Moment) :
    Holds
      { system := x.system.withDatabase { x.system.database with locked := true }
        tx := x.tx.afterSave recordId v (old.saved state actor savedAt) }
      (writes ++ [.save recordId state actor savedAt]) := by
  obtain ⟨y, hy, hid, hversion⟩ := hrow
  have hkey : old.id = recordId := h.loaded recordId old hold
  refine h.write hv ⟨y, hy, hid.trans hkey⟩ ?_ fun id r hr => ?_
  · rw [Transaction.afterSave, (h.view_keyed hk hv).put_saved hy hid hversion, hkey]
    rfl
  · dsimp only [Transaction.afterSave] at hr
    by_cases hsame : id = recordId
    · rw [hsame, Fields.get?_set_self] at hr
      cases hr
      rw [Record.saved_id, hkey, hsame]
    · rw [Fields.get?_set_other _ _ hsame] at hr
      exact h.loaded id r hr

theorem entry (h : x.Holds writes) {v : Tables} (hv : x.tx.view x.system.database = some v)
    {a : AuditEntry} (hnew : ∀ y ∈ v.audit, y.id ≠ a.id) :
    Holds
      { system := x.system.withDatabase { x.system.database with locked := true }
        tx := x.tx.afterEntry v a }
      (writes ++ [.entry a]) :=
  h.write hv hnew rfl h.loaded

/-- Others cannot change the database once the script has written. -/
theorem outside (h : x.Holds writes) {s : System}
    (hs : x.tx.pending.isSome = true → s.database = x.system.database) :
    Holds { x with system := s } writes := by
  refine ⟨fun v hv => ?_, h.none, h.loaded⟩
  cases hpending : x.tx.pending with
  | none =>
    rw [Transaction.view, hpending] at hv
    rw [h.none hpending]
    exact ⟨v, hv, .nil⟩
  | some u =>
    have hsame := hs (by rw [hpending]; rfl)
    dsimp only at hv ⊢
    rw [hsame] at hv ⊢
    exact h.written v hv

end Holds
end Scripted

/-! ## What writes come to -/

/-- A record once its state has been saved some times, the last one at a moment: in the last state,
by the last actor, and one version later for each time. -/
def Record.resaved (r : Record) (saves : List (String × Option String)) (last : Option Moment) :
    Record :=
  match saves.getLast? with
  | none => r
  | some (state, actor) =>
    { r with
      state := some state
      updatedBy := actor
      updatedAt := last
      version := r.version + saves.length }

theorem Record.resaved_id (r : Record) (saves : List (String × Option String))
    (last : Option Moment) : (r.resaved saves last).id = r.id := by
  rw [Record.resaved]
  split <;> rfl

theorem Record.resaved_concat (r : Record) (saves : List (String × Option String))
    (before : Option Moment) (state : String) (actor : Option String) (savedAt : Moment) :
    r.resaved (saves ++ [(state, actor)]) (some savedAt) =
      (r.resaved saves before).saved state actor savedAt := by
  cases hlast : saves.getLast? with
  | none =>
    obtain rfl := List.getLast?_eq_none_iff.1 hlast
    simp [Record.resaved, Record.saved]
  | some last =>
    have hversion :
        r.version + ((saves.length + 1 : Nat) : Int) = r.version + saves.length + 1 := by
      omega
    simp only [Record.resaved, Record.saved, List.getLast?_concat, List.length_append,
      List.length_singleton, hlast, hversion]

namespace Write

/-- The state of a record that is saved, and who saves it. -/
def saveOf? (recordId : String) : Write → Option (String × Option String)
  | .save id state actor _ => if id = recordId then some (state, actor) else none
  | .entry _ => none

/-- When a record is saved. -/
def savedAt? (recordId : String) : Write → Option Moment
  | .save id _ _ savedAt => if id = recordId then some savedAt else none
  | .entry _ => none

/-- The entry that is added. -/
def entry? : Write → Option AuditEntry
  | .save .. => none
  | .entry a => some a

end Write

namespace Tables

/-- Tables with records in the states that are saved of them, each for the last time at a moment of
its own, and with further entries. -/
def rewritten (t : Tables) (saves : String → List (String × Option String))
    (last : String → Option Moment) (entries : List AuditEntry) : Tables :=
  { t with
    records := t.records.map fun r => r.resaved (saves r.id) (last r.id)
    audit := t.audit ++ entries }

/-- **What writes come to.** -/
theorem Written.eq {t u : Tables} {writes : List Write} (h : t.Written writes u) :
    u = t.rewritten (fun id => writes.filterMap (Write.saveOf? id))
      (fun id => (writes.filterMap (Write.savedAt? id)).getLast?)
      (writes.filterMap Write.entry?) := by
  induction h with
  | nil => simp [rewritten, Record.resaved]
  | @snoc u writes w h hw ih =>
    cases w with
    | entry a =>
      have hsaves : ∀ id, [Write.entry a].filterMap (Write.saveOf? id) = [] := fun _ => rfl
      have hlast : ∀ id, [Write.entry a].filterMap (Write.savedAt? id) = [] := fun _ => rfl
      rw [Write.apply, addEntry, ih]
      simp only [rewritten, List.filterMap_append, hsaves, hlast, List.append_nil,
        List.append_assoc]
      rfl
    | save recordId state actor savedAt =>
      rw [Write.apply, Tables.save, ih]
      simp only [rewritten, List.map_map, List.filterMap_append]
      congr 1
      · refine List.map_congr_left fun r _ => ?_
        rw [Function.comp_apply, Record.resaved_id]
        by_cases hid : recordId = r.id
        · have hlast : ([Write.save recordId state actor savedAt].filterMap
              (Write.savedAt? r.id)) = [savedAt] := by simp [Write.savedAt?, hid]
          have hsaves : ([Write.save recordId state actor savedAt].filterMap
              (Write.saveOf? r.id)) = [(state, actor)] := by simp [Write.saveOf?, hid]
          rw [hlast, hsaves, List.getLast?_concat, Record.resaved_concat, hid, beq_self_eq_true,
            if_pos rfl]
        · simp [hid, Ne.symm hid, Write.saveOf?, Write.savedAt?]
      · simp [Write.entry?]

/-- Only records that were there before are saved. -/
theorem Written.saved_mem {t u : Tables} {writes : List Write} (h : t.Written writes u)
    {recordId : String} (hid : recordId ∈ writes.filterMap Write.savedId?) :
    ∃ r ∈ t.records, r.id = recordId := by
  induction h with
  | nil => cases hid
  | @snoc u writes w h hw ih =>
    rw [List.filterMap_append, List.mem_append] at hid
    rcases hid with hid | hid
    · exact ih hid
    · cases w with
      | entry a => cases hid
      | save id state actor savedAt =>
        obtain ⟨x, hx, hxid⟩ := hw
        rw [h.eq] at hx
        obtain ⟨r, hr, rfl⟩ := List.mem_map.1 hx
        exact ⟨r, hr, (r.resaved_id _ _).symm.trans (hxid.trans (List.mem_singleton.1 hid).symm)⟩

end Tables

/-! ## What a script asks to be written -/

/-- The state of a record that a part of a script saves, and who saves it. -/
def Action.saveOf? (recordId : String) : Action → Option (String × Option String)
  | .saveState id state actor => if id = recordId then some (state, actor) else none
  | _ => none

/-- The audit entry that a part of a script adds. -/
def Action.entry? : Action → Option AuditEntry
  | .appendAudit entry => some entry
  | _ => none

/-- An entry as it is kept: under its own id or a new one, its metadata as a document. -/
def AuditEntry.KeptAs (given kept : AuditEntry) : Prop :=
  ∃ taken metadata, Transaction.keptMetadata given = .ok metadata ∧
    kept = given.kept (idOr given.id taken) metadata

/-- When a script saves a record for the last time, by the clock on the wall. -/
def Scripted.lastSave? (recordId : String) : Scripted → List Action → Option Moment
  | _, [] => none
  | x, action :: rest =>
    (lastSave? recordId (action.run x).2 rest).or
      (if action.savedId? = some recordId then some x.system.now else none)

theorem Action.PutsAll.lastSave {x : Scripted} {script : List Action} {writes : List Write}
    (h : Action.PutsAll x script writes) (recordId : String) :
    (writes.filterMap (Write.savedAt? recordId)).getLast? = x.lastSave? recordId script := by
  induction h with
  | nil => rfl
  | @cons x action rest _ _ h _ ih =>
    rw [List.filterMap_append, List.getLast?_append, ih, Scripted.lastSave?]
    congr 1
    cases h with
    | @save id state actor =>
      by_cases hid : id = recordId <;> simp [Write.savedAt?, Action.savedId?, hid]
    | _ => rfl

theorem Action.PutsAll.saves {x : Scripted} {script : List Action} {writes : List Write}
    (h : Action.PutsAll x script writes) (recordId : String) :
    writes.filterMap (Write.saveOf? recordId) = script.filterMap (Action.saveOf? recordId) := by
  induction h with
  | nil => rfl
  | cons h _ ih =>
    rw [List.filterMap_append, ih]
    cases h with
    | @save id state actor =>
      by_cases hid : id = recordId <;> simp [Write.saveOf?, Action.saveOf?, hid]
    | _ => rfl

theorem Action.PutsAll.entries {x : Scripted} {script : List Action} {writes : List Write}
    (h : Action.PutsAll x script writes) :
    List.Forall₂ AuditEntry.KeptAs (script.filterMap Action.entry?)
      (writes.filterMap Write.entry?) := by
  induction h with
  | nil => exact .nil
  | cons h _ ih =>
    cases h with
    | entry hmetadata => exact .cons ⟨_, _, hmetadata, rfl⟩ ih
    | _ => exact ih

end RecordRules
