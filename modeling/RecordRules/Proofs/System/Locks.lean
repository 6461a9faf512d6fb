import RecordRules.Proofs.System.Journal

/-!
# While somebody is writing

A transaction that has written holds the write lock.  Until it ends, nothing that others do changes
the database, and everything that they try to write fails.

* `Note.Refused` is what an observer notes meanwhile.
* `Blocked` says that all steps have been in vain.  `Operation.run_locked`, `finish_locked` and
  `move_locked` show it for single steps.
* `Step.run_locked` and `runAll_locked` carry it over to all steps and what runs inside them, with
  the parts of a script in `Action.run_locked` and `runScript_locked`.
-/

set_option autoImplicit false

namespace RecordRules

open Workflow

/-! ## Operations -/

theorem Operation.Writes.locked {o : Operation} {db db' : Database} (h : o.Writes db db')
    (hl : db.locked = true) : db' = db := by
  rcases h.effect with ⟨is, -, his⟩ | ⟨-, -, hfree, -⟩ | ⟨-, -, hfree, -⟩
  · cases his with
    | nil => rfl
    | cons hi _ =>
      obtain ⟨t, -, hfree, -⟩ := hi
      rw [hl] at hfree
      cases hfree
  · rw [hl] at hfree
    cases hfree
  · rw [hl] at hfree
    cases hfree

/-- What the answer to a request for a new record tells, and what has happened then. -/
theorem Operation.createRecord_cases (s : System) (n : NewRecord) :
    (((Operation.createRecord n).notes ((Operation.createRecord n).run s).1 = []) ∧
        ((Operation.createRecord n).run s).2 = s) ∨
      ∃ r db, s.database.createRecord s.now n = .ok (r, db) ∧
        (Operation.createRecord n).notes ((Operation.createRecord n).run s).1 =
          [.created r.id n.state] ∧
        ((Operation.createRecord n).run s).2 = s.withDatabase db := by
  rw [Operation.run]
  cases h : s.database.createRecord s.now n with
  | error e => exact Or.inl ⟨rfl, rfl⟩
  | ok done => exact Or.inr ⟨done.1, done.2, rfl, rfl, rfl⟩

/-- Only the answer to a request for a new record tells anything. -/
theorem Operation.notes_eq_nil {o : Operation} (h : ∀ n, o ≠ .createRecord n) (a : Answer) :
    o.notes a = [] := by
  cases o with
  | createRecord n => exact absurd rfl (h n)
  | _ => rfl

/-! ## What is noted -/

/-- Something was tried, in vain: a save failed because the database did, and a move that could have
been made failed for the same reason. -/
def Note.Refused (limits : Expression.Limits) (tables : Option Tables) : Note → Prop
  | .created .. => False
  | .saved _ failure => ∃ e, failure = some e ∧ e.IsOf .storage
  | .committed _ => False
  | .moved m failure =>
    ∃ e, failure = some e ∧ ∀ t ∈ tables, ∀ p r, Allowed limits t m p r → e.IsOf .storage

/-- Everything that was noted between two systems was in vain. -/
structure Blocked (s : System) (notes : List Note) (s' : System) : Prop where
  database : s'.database = s.database
  limits : s'.limits = s.limits
  refused : ∀ n ∈ notes, n.Refused s.limits s.database.tables

namespace Blocked

theorem refl (s : System) : Blocked s [] s := ⟨rfl, rfl, List.forall_mem_nil _⟩

theorem trans {s s₁ s' : System} {notes more : List Note} (h : Blocked s notes s₁)
    (h' : Blocked s₁ more s') : Blocked s (notes ++ more) s' := by
  refine ⟨h'.database.trans h.database, h'.limits.trans h.limits, fun n hn => ?_⟩
  rcases List.mem_append.1 hn with hn | hn
  · exact h.refused n hn
  · rw [← h.limits, ← h.database]
    exact h'.refused n hn

/-- What was tried in vain does not last. -/
theorem filter_lasting {s s' : System} {notes : List Note} (h : Blocked s notes s') :
    notes.filter Note.lasting = [] := by
  refine List.filter_eq_nil_iff.2 fun n hn => ?_
  have hrefused := h.refused n hn
  cases n with
  | created _ _ => exact hrefused.elim
  | saved _ _ => exact Bool.false_ne_true
  | committed _ => exact hrefused.elim
  | moved m failure =>
    obtain ⟨e, rfl, -⟩ := hrefused
    exact Bool.false_ne_true

end Blocked

/-! ## Single steps -/

theorem Operation.run_locked {s : System} (hl : s.database.locked = true) (o : Operation) :
    Blocked s (o.notes (o.run s).1) (o.run s).2 := by
  obtain ⟨hlimits, hdatabase⟩ := o.run_cases s
  have hsame : (o.run s).2.database = s.database := hdatabase.elim id fun h => h.locked hl
  by_cases h : ∃ n, o = .createRecord n
  · obtain ⟨n, rfl⟩ := h
    rcases Operation.createRecord_cases s n with ⟨hnotes, -⟩ | ⟨r, db, hdb, -, hsystem⟩
    · rw [hnotes]
      exact ⟨hsame, hlimits, List.forall_mem_nil _⟩
    · obtain ⟨data, -, -, t, -, hfree, -⟩ := Database.createRecord_ok hdb
      rw [hl] at hfree
      cases hfree
  · rw [Operation.notes_eq_nil (fun n hn => h ⟨n, hn⟩)]
    exact ⟨hsame, hlimits, List.forall_mem_nil _⟩

namespace Workflow

theorem complete_locked {db : Database} {m : Move} {o : Opened} (hp : o.tx.pending = none)
    (hl : db.locked = true) (savedAt performedAt : Moment) :
    ∃ e, complete db savedAt m o performedAt = .error e ∧ e.IsOf .storage := by
  obtain ⟨e, he, hkind⟩ :=
    Transaction.saveState_locked hp hl m.recordId o.plan.transition.toState m.actor savedAt
  exact ⟨_, by rw [complete, he, mapError_error, error_bind], hkind⟩

/-- A move that has not written yet cannot be finished while somebody else is writing. -/
theorem finish_locked {s : System} {m : Move} {o : Opened} (hp : o.tx.pending = none)
    (hl : s.database.locked = true) :
    ∃ e, (finish s m o).1 = .error e ∧ (finish s m o).2.limits = s.limits ∧
      (finish s m o).2.database = s.database ∧ (cleared s m o = .ok () → e.IsOf .storage) := by
  obtain ⟨e, he, hkind⟩ := complete_locked (m := m) hp hl s.now (.ofClock s.clock)
  rcases finish_cases s m o with ⟨e', he', hlimits, hdatabase⟩ | ⟨result, db, -, hdone, -⟩
  · refine ⟨e', he', hlimits, ?_, fun hcleared => ?_⟩
    · rw [hdatabase, Transaction.rollback_of_none hp]
    · have hsame := he'.symm.trans (finish_eq_of_error hcleared he)
      cases hsame
      exact hkind
  · rw [he] at hdone
    cases hdone

/-- A record without a state of its own cannot be put into one while somebody else is writing. -/
theorem execute_locked {β : Type} {s : System} {t : Tables} (ht : s.database.tables = some t)
    (hk : t.Keyed) (hl : s.database.locked = true) {m : Move} {p : Plan} {r : Record}
    (h : Located t m p r) (hunset : (Record.currentState r.state p.workflow).defaulted = true)
    (run : System → β × System) :
    ∃ e, execute s m run = (.error e, none, s) ∧ e.IsOf .storage := by
  have hr := hk.record?_eq_some_iff.2 ⟨h.record, h.recordEntity, h.recordId⟩
  have hload : (({} : Transaction).load s.database m.entityId m.recordId) =
      .ok (some r, ({} : Transaction).afterLoad m.entityId m.recordId r) := by
    refine Transaction.load_eq_ok_iff.2 ⟨t, ht, ?_⟩
    rw [hr]
    exact ⟨rfl, rfl⟩
  have hpending : (({} : Transaction).afterLoad m.entityId m.recordId r).pending = none := rfl
  obtain ⟨e, he, hkind⟩ := Transaction.saveState_locked hpending hl m.recordId
    (Record.currentState r.state p.workflow).state m.actor s.now
  refine ⟨_, ?_, hkind⟩
  rw [execute, (plan_eq_ok_iff ht hk).2 ⟨r, h⟩, ok_bind, openRecord, hload, mapError_ok, ok_bind]
  dsimp only
  rw [if_pos hunset, he, mapError_error, error_bind]

/-- While somebody else is writing, a move that does not come to the look-up of roles could have
been made only if its record has no state of its own. -/
theorem execute_locked_of_none {β : Type} {s : System} (hk : s.database.Keyed)
    (hl : s.database.locked = true) {m : Move} (h : reached? s m = none)
    (run : System → β × System) :
    ∃ e, execute s m run = (.error e, none, s) ∧
      ∀ t ∈ s.database.tables, ∀ p r, Allowed s.limits t m p r → e.IsOf .storage := by
  by_cases hunset : ∃ t p r, s.database.tables = some t ∧ Located t m p r ∧
      (Record.currentState r.state p.workflow).defaulted = true
  · obtain ⟨t, p, r, ht, hloc, hunset⟩ := hunset
    obtain ⟨e, he, hkind⟩ := execute_locked ht (hk t ht) hl hloc hunset run
    exact ⟨e, he, fun _ _ _ _ _ => hkind⟩
  · obtain ⟨e, he⟩ := execute_of_none h run
    refine ⟨e, he, fun t ht p r hallowed => ?_⟩
    have hsome := (reached?_eq_some_iff ht (hk t ht)).2 ⟨p, r, hallowed.located,
      hallowed.source, fun hd => absurd ⟨t, p, r, ht, hallowed.located, hd⟩ hunset, rfl, rfl⟩
    rw [h] at hsome
    cases hsome

end Workflow

/-- A move is in vain while somebody else is writing, if what runs meanwhile is. -/
theorem Step.move_locked {s : System} (hl : s.database.locked = true) (hk : s.database.Keyed)
    (m : Move) {steps : List Step}
    (hsteps : Blocked s (notesAll steps (runAll s steps).1) (runAll s steps).2) :
    Blocked s ((Step.move m steps).notes ((Step.move m steps).run s).1)
      ((Step.move m steps).run s).2 := by
  have hvain : ∀ {notes : List Note} {s₁ : System} {e : Failure}, Blocked s notes s₁ →
      (∀ t ∈ s.database.tables, ∀ p r, Allowed s.limits t m p r → e.IsOf .storage) →
      ∀ n ∈ notes ++ [.moved m (some e)], n.Refused s.limits s.database.tables := by
    intro notes s₁ e hbefore he n hn
    rcases List.mem_append.1 hn with hn | hn
    · exact hbefore.refused n hn
    · rw [List.mem_singleton.1 hn]
      exact ⟨e, rfl, he⟩
  cases hreached : reached? s m with
  | none =>
    obtain ⟨e, he, hkind⟩ := execute_locked_of_none hk hl hreached fun s => runAll s steps
    obtain ⟨hnotes, hsystem⟩ := Step.run_move_of_error he
    rw [hnotes, hsystem]
    exact ⟨rfl, rfl, hvain (.refl s) hkind⟩
  | some reached =>
    obtain ⟨o, u⟩ := reached
    obtain ⟨t, p, r, ht, hloc, -, hfree, rfl, rfl⟩ := reached?_cases hk hreached
    have hset : (Record.currentState r.state p.workflow).defaulted = false := by
      refine Bool.eq_false_iff.2 fun hd => ?_
      rw [hfree hd] at hl
      cases hl
    rw [held_of_set hset, System.withDatabase_self] at hreached
    have hmeanwhile : Blocked s (notesAll steps (meanwhile s (opened t m p r s.now) steps).1)
        (meanwhile s (opened t m p r s.now) steps).2 := meanwhile_ind (.refl s) hsteps
    obtain ⟨hnotes, hsystem⟩ := Step.run_move_of_some hreached steps
    rw [hnotes, hsystem]
    have hl' : (meanwhile s (opened t m p r s.now) steps).2.database.locked = true := by
      rw [hmeanwhile.database, hl]
    obtain ⟨e, he, hlimits, hdatabase, hkind⟩ :=
      finish_locked (m := m) (opened_of_set t m s.now hset).2 hl'
    rw [he]
    refine ⟨hdatabase.trans hmeanwhile.database, hlimits.trans hmeanwhile.limits,
      hvain hmeanwhile fun t' ht' q x hallowed => hkind ?_⟩
    have htt : t = t' := Option.some.inj (ht.symm.trans ht')
    subst htt
    obtain ⟨rfl, rfl⟩ := hloc.unique (hk t ht) hallowed.located
    rw [cleared_eq_ok_iff (t := t) (by rw [hmeanwhile.database, ht]) (hk t ht)
      (by rw [opened_plan]; exact hloc.entity), opened_plan, opened_data, hmeanwhile.limits]
    exact ⟨hallowed.authorized, hallowed.met⟩

/-! ## Runs -/

section Runs

variable {p : Step → Prop}

mutual

/-- **A step is in vain while somebody else is writing.** -/
theorem Step.run_locked (hp : ∀ r, ¬ p (.request r)) : ∀ (step : Step), step.Throughout p →
    ∀ s : System, s.database.locked = true → s.database.Keyed →
    Blocked s (step.notes (step.run s).1) (step.run s).2
  | .operation o, _, s, hl, _ => by
    rw [Step.run, Step.notes]
    exact o.run_locked hl
  | .move m steps, h, s, hl, hk => Step.move_locked hl hk m (runAll_locked hp steps h.2 s hl hk)
  | .transaction script, h, s, hl, hk => by
    have hscript := runScript_locked hp script h.2 { system := s } rfl hl hk
    rw [Step.run]
    cases hrun : runScript { system := s } script with
    | mk outcomes rest =>
      obtain ⟨failure, x⟩ := rest
      rw [hrun] at hscript
      obtain ⟨hblocked, hpending, hsaves⟩ := hscript
      cases failure with
      | none =>
        dsimp only
        rw [Step.notes, hsaves rfl, Note.committed?, Option.toList_none, List.append_nil,
          Scripted.commit, Transaction.commit_of_none hpending]
        exact hblocked
      | some e =>
        dsimp only
        rw [Step.notes, Scripted.rollback, Transaction.rollback_of_none hpending]
        exact hblocked
        nofun
  | .request r, h, _, _, _ => absurd h (hp r)
  | .wait moment, _, s, _, _ => by
    simp only [Step.run, Step.notes]
    exact ⟨rfl, rfl, List.forall_mem_nil _⟩
  | .withdraw parts, _, s, _, _ => by
    simp only [Step.run, Step.notes]
    exact ⟨rfl, rfl, List.forall_mem_nil _⟩

/-- **Steps are in vain while somebody else is writing.** -/
theorem runAll_locked (hp : ∀ r, ¬ p (.request r)) : ∀ (steps : List Step),
    Step.AllThroughout p steps → ∀ s : System, s.database.locked = true → s.database.Keyed →
    Blocked s (notesAll steps (runAll s steps).1) (runAll s steps).2
  | [], _, s, _, _ => .refl s
  | step :: rest, h, s, hl, hk => by
    have hstep := step.run_locked hp h.1 s hl hk
    rw [runAll, notesAll]
    refine hstep.trans (runAll_locked hp rest h.2 _ ?_ ?_)
    · rw [hstep.database, hl]
    · rw [hstep.database]
      exact hk

/-- A part of a script that has not written yet, while somebody else is writing: only those that
write nothing succeed. -/
theorem Action.run_locked (hp : ∀ r, ¬ p (.request r)) : ∀ (action : Action),
    action.Throughout p → ∀ x : Scripted, x.tx.pending = none → x.system.database.locked = true →
    x.system.database.Keyed →
    Blocked x.system (action.notes (action.run x).1) (action.run x).2.system ∧
      (action.run x).2.tx.pending = none ∧
      ∀ outcome, (action.run x).1 = .ok outcome → action.savedId? = none
  | .load entityId recordId, _, x, hpending, _, _ => by
    rw [Action.run, Scripted.afterRead.eq_def]
    cases hload : x.tx.load x.system.database entityId recordId with
    | error e => exact ⟨.refl _, hpending, fun _ _ => rfl⟩
    | ok found =>
      obtain ⟨found, tx⟩ := found
      obtain ⟨t, -, hfound⟩ := Transaction.load_eq_ok_iff.1 hload
      refine ⟨.refl _, ?_, fun _ _ => rfl⟩
      cases hr : t.record? entityId recordId with
      | none =>
        rw [hr] at hfound
        exact hfound.2 ▸ hpending
      | some stored =>
        rw [hr] at hfound
        exact hfound.2 ▸ hpending
  | .saveState recordId state actor, _, x, hpending, hl, _ => by
    obtain ⟨e, he, hkind⟩ := Transaction.saveState_locked hpending hl recordId state actor
      x.system.now
    rw [Action.run, Scripted.afterWrite.eq_def, he]
    refine ⟨⟨rfl, rfl, fun n hn => ?_⟩, hpending, nofun⟩
    rw [List.mem_singleton.1 hn]
    exact ⟨_, rfl, hkind⟩
  | .appendAudit entry, _, x, hpending, hl, _ => by
    rw [Action.run, Scripted.afterWrite.eq_def]
    cases hentry : x.tx.appendAudit x.system.database entry with
    | error e => exact ⟨.refl _, hpending, fun _ _ => rfl⟩
    | ok done =>
      obtain ⟨given, tx, db⟩ := done
      obtain ⟨-, _, _, _, -, -, hfree, -⟩ := Transaction.appendAudit_eq_ok_iff.1 hentry
      rw [hfree hpending] at hl
      cases hl
  | .outside steps, h, x, hpending, hl, hk => by
    rw [Action.run, Action.notes]
    exact ⟨runAll_locked hp steps h x.system hl hk, hpending, fun _ _ => rfl⟩
  | .fail failure, _, x, hpending, _, _ => by
    rw [Action.run]
    exact ⟨.refl _, hpending, fun _ _ => rfl⟩

/-- A script that has not written yet, while somebody else is writing. -/
theorem runScript_locked (hp : ∀ r, ¬ p (.request r)) : ∀ (script : List Action),
    Action.AllThroughout p script → ∀ x : Scripted, x.tx.pending = none →
    x.system.database.locked = true → x.system.database.Keyed →
    Blocked x.system (scriptNotes script (runScript x script).1 (runScript x script).2.1)
        (runScript x script).2.2.system ∧
      (runScript x script).2.2.tx.pending = none ∧
      ((runScript x script).2.1 = none → script.filterMap Action.savedId? = [])
  | [], _, x, hpending, _, _ => ⟨.refl _, hpending, fun _ => rfl⟩
  | action :: rest, h, x, hpending, hl, hk => by
    have haction := action.run_locked hp h.1 x hpending hl hk
    rw [runScript]
    cases hrun : action.run x with
    | mk result x₁ =>
      rw [hrun] at haction
      obtain ⟨hblocked, hpending₁, hsaves⟩ := haction
      cases result with
      | error failure => exact ⟨hblocked, hpending₁, nofun⟩
      | ok outcome =>
        obtain ⟨hrest, hlast, hnone⟩ := runScript_locked hp rest h.2 x₁ hpending₁
          (by rw [hblocked.database, hl]) (by rw [hblocked.database]; exact hk)
        refine ⟨hblocked.trans hrest, hlast, fun hdone => ?_⟩
        rw [List.filterMap_cons_none (hsaves outcome rfl)]
        exact hnone hdone

end

end Runs
end RecordRules
