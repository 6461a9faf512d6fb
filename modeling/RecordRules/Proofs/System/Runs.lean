import RecordRules.Proofs.System.Locks
import RecordRules.Proofs.System.Scripts

/-!
# Runs as histories

Every run is a history: whatever its steps and the steps inside them do, the tables change by one
`Change` after the other, and the replies tell of every change to a record.

* `Change.Within` relates a change to the steps that can have made it.
* `Advances` says that a history leads from one system to another and that notes tell of it.
* `Operation.run_advances` and `Step.move_advances` show it for single steps, and `Underway` is what
  holds in the middle of a script.
* `Step.run_advances` and `runAll_advances` carry it over to all steps, and `Reachable.history` to
  all systems that runs lead to.
-/

set_option autoImplicit false

namespace RecordRules

open Workflow

/-! ## Changes of a run -/

/-- A change that steps of a kind can have made.  Once tables have been dropped and made anew while
a move was under way, it only writes, whatever it was about before. -/
def Change.Within (p : Step → Prop) : Change → Prop
  | .insert i => ∃ o, p (.operation o) ∧ o.MayAdd i
  | .move .. => True
  | .commit _ => (∃ script, p (.transaction script)) ∨ p (.operation .dropTables)
  | .create => p (.operation .createTables)
  | .drop => p (.operation .dropTables)

/-- Steps of this kind neither drop the tables nor load the sample, the parts of which are not
told apart in replies. -/
def Plain (p : Step → Prop) : Prop := ¬ p (.operation .dropTables) ∧ ¬ p (.operation .loadSample)

/-- Notes tell of all changes to records. -/
def Tells (notes : List Note) (changes : List Change) : Prop :=
  notes.filter Note.lasting = changes.filterMap Change.note?

theorem Tells.append {notes more : List Note} {changes others : List Change}
    (h : Tells notes changes) (h' : Tells more others) :
    Tells (notes ++ more) (changes ++ others) := by
  rw [Tells, List.filter_append, List.filterMap_append, h, h']

/-- A history by steps of a kind leads from one system to another, and notes tell of it. -/
structure Advances (p : Step → Prop) (s : System) (notes : List Note) (s' : System) : Prop where
  limits : s'.limits = s.limits
  history : ∃ changes, History s.limits s.database.tables changes s'.database.tables ∧
    (∀ c ∈ changes, c.Within p) ∧ (Plain p → Tells notes changes)

namespace Advances

variable {p : Step → Prop} {s s₁ s' : System} {notes more : List Note}

/-- Nothing has happened that lasts. -/
theorem of_eq (hlimits : s'.limits = s.limits)
    (htables : s'.database.tables = s.database.tables)
    (hnotes : notes.filter Note.lasting = []) : Advances p s notes s' :=
  ⟨hlimits, [], by rw [htables]; exact .nil _, List.forall_mem_nil _, fun _ => hnotes⟩

/-- There has been a single change. -/
theorem of_change {c : Change} (hlimits : s'.limits = s.limits)
    (hc : c.Makes s.limits s.database.tables s'.database.tables) (hwithin : c.Within p)
    (htold : Plain p → Tells notes [c]) : Advances p s notes s' :=
  ⟨hlimits, [c], .single hc, by simpa using hwithin, htold⟩

theorem refl (p : Step → Prop) (s : System) : Advances p s [] s := of_eq rfl rfl rfl

theorem trans (h : Advances p s notes s₁) (h' : Advances p s₁ more s') :
    Advances p s (notes ++ more) s' := by
  obtain ⟨changes, hhistory, hwithin, htold⟩ := h.history
  obtain ⟨others, hhistory', hwithin', htold'⟩ := h'.history
  rw [h.limits] at hhistory'
  refine ⟨h'.limits.trans h.limits, changes ++ others, hhistory.append hhistory', fun c hc => ?_,
    fun hp => (htold hp).append (htold' hp)⟩
  exact (List.mem_append.1 hc).elim (hwithin c) (hwithin' c)

/-- The lock and what is not kept in the tables do not matter. -/
theorem congr (h : Advances p s notes s₁) (hlimits : s'.limits = s₁.limits)
    (htables : s'.database.tables = s₁.database.tables) : Advances p s notes s' :=
  ⟨hlimits.trans h.limits, by rw [htables]; exact h.history⟩

theorem of_blocked (h : Blocked s notes s') : Advances p s notes s' :=
  of_eq h.limits (by rw [h.database]) h.filter_lasting

theorem keyed (h : Advances p s notes s') (hk : s.database.Keyed) : s'.database.Keyed := by
  obtain ⟨changes, hhistory, -, -⟩ := h.history
  exact hhistory.keyed hk

/-- As long as nobody drops them, the tables grow. -/
theorem grows (h : Advances p s notes s') (hdrop : ¬ p (.operation .dropTables)) {t : Tables}
    (ht : s.database.tables = some t) (hk : t.Keyed) :
    ∃ u, s'.database.tables = some u ∧ t.Grows u := by
  obtain ⟨changes, hhistory, hwithin, -⟩ := h.history
  rw [ht] at hhistory
  exact hhistory.grows hk fun hmem => hdrop (hwithin _ hmem)

end Advances

/-! ## Operations -/

/-- An operation that does not create a record adds nothing that notes tell of, unless it is the
sample. -/
theorem Operation.MayAdd.note?_eq_none {o : Operation} {i : Insert} (h : o.MayAdd i)
    (hrecord : ∀ n, o ≠ .createRecord n) (hsample : o ≠ .loadSample) :
    (Change.insert i).note? = none := by
  cases h with
  | record => exact absurd rfl (hrecord _)
  | sample => exact absurd rfl hsample
  | _ => rfl

theorem Operation.run_advances {p : Step → Prop} {o : Operation} (ho : p (.operation o))
    {s : System} (hfree : s.database.locked = false) :
    Advances p s (o.notes (o.run s).1) (o.run s).2 ∧
      (o.run s).2.database.locked = false := by
  by_cases hrecord : ∃ n, o = .createRecord n
  · obtain ⟨n, rfl⟩ := hrecord
    rcases Operation.createRecord_cases s n with ⟨hnotes, hsystem⟩ | ⟨r, db, hdb, hnotes, hsystem⟩
    · rw [hnotes, hsystem]
      exact ⟨.refl p s, hfree⟩
    · rw [hnotes, hsystem]
      obtain ⟨data, hdata, hr, t, ht, -, hfits, rfl⟩ := Database.createRecord_ok hdb
      refine ⟨.of_change (c := .insert (.record { r with data })) rfl ?_ ?_ fun _ => ?_, hfree⟩
      · rw [ht]
        exact .insert hfits
      · refine ⟨_, ho, ?_⟩
        rw [hr]
        exact .record hdata
      · rw [hr]
        rfl
  · have hother : ∀ n, o ≠ .createRecord n := fun n hn => hrecord ⟨n, hn⟩
    rw [Operation.notes_eq_nil hother]
    obtain ⟨hlimits, hsame | hwrites⟩ := o.run_cases s
    · rw [hsame]
      exact ⟨.of_eq hlimits (by rw [hsame]) rfl, hfree⟩
    · rcases hwrites.effect with ⟨is, hadd, his⟩ | ⟨rfl, ht, hl, hdb⟩ | ⟨rfl, ht, hl, hdb⟩
      · obtain ⟨hhistory, hlocked⟩ : History s.limits _ _ _ ∧ _ := History.of_insertsAll his
        refine ⟨⟨hlimits, is.map .insert, hhistory, fun c hc => ?_, fun hplain => ?_⟩,
          hlocked.trans hfree⟩
        · obtain ⟨i, hi, rfl⟩ := List.mem_map.1 hc
          exact ⟨o, ho, hadd i hi⟩
        · have hsample : o ≠ .loadSample := fun h => hplain.2 (h ▸ ho)
          rw [Tells, List.filterMap_map, eq_comm]
          exact List.filterMap_eq_nil_iff.2 fun i hi => (hadd i hi).note?_eq_none hother hsample
      · refine ⟨.of_change (c := .create) hlimits ?_ ho fun _ => rfl, by rw [hdb, hl]⟩
        rw [ht, hdb]
        exact .create
      · obtain ⟨t, ht⟩ := Option.isSome_iff_exists.1 ht
        refine ⟨.of_change (c := .drop) hlimits ?_ ho fun hplain => absurd ho hplain.1,
          by rw [hdb, hl]⟩
        rw [ht, hdb]
        exact .drop

/-! ## Moves -/

section Move

variable {p : Step → Prop} {s : System} {t : Tables} {m : Move} {q : Plan} {r : Record}
  {notes : List Note} {v : System} {openedAt : Moment}

/-- The end of a move that holds the write lock: nobody has changed anything since it began. -/
theorem finish_advances_of_unset (ht : s.database.tables = some t) (hk : t.Keyed)
    (hloc : Located t m q r)
    (hsource : q.transition.fromState = (Record.currentState r.state q.workflow).state)
    (hunset : (Record.currentState r.state q.workflow).defaulted = true)
    (hblocked : Blocked (s.withDatabase { s.database with locked := true }) notes v) :
    Advances p s (notes ++ [.moved m (failureOf (finish v m (opened t m q r openedAt)).1)])
        (finish v m (opened t m q r openedAt)).2 ∧
      (finish v m (opened t m q r openedAt)).2.database.locked = false := by
  have hv : v.database.tables = some t := by rw [hblocked.database]; exact ht
  have hlasting : ∀ e, (notes ++ [Note.moved m (some e)]).filter Note.lasting = [] := fun e => by
    rw [List.filter_append, hblocked.filter_lasting]
    rfl
  rcases finish_cases v m (opened t m q r openedAt) with
    ⟨e, he, hlimits, hdatabase⟩ | ⟨result, db, -, -, hdone⟩
  · rw [Transaction.rollback_of_pending (opened_of_unset _ _ _ hunset).2] at hdatabase
    rw [he]
    exact ⟨.of_eq (hlimits.trans hblocked.limits) (by rw [hdatabase, ht]; exact hv) (hlasting e),
      by rw [hdatabase]⟩
  · obtain ⟨hr, hauthorized, hmet, -, -, hafter⟩ := (finish_eq_ok_iff hv hk hloc (.refl t)
      (fun _ => rfl) (fun h => by rw [Record.currentState_defaulted, h] at hunset; cases hunset)).1
      hdone
    rw [hblocked.limits] at hmet
    rw [hdone, hafter]
    refine ⟨?_, rfl⟩
    have hmove : Advances p s [.moved m none] (v.tick.2.withDatabase
        { tables := some (t.moved m q r v.now (.ofClock v.clock)), locked := false }) := by
      refine .of_change (c := .move m q r v.now (.ofClock v.clock)) hblocked.limits ?_ trivial
        fun _ => rfl
      rw [ht]
      exact .move ⟨hloc, hsource, hauthorized, hmet⟩
    refine ⟨hmove.limits, ?_⟩
    obtain ⟨changes, hhistory, hwithin, htold⟩ := hmove.history
    refine ⟨changes, hhistory, hwithin, fun hplain => ?_⟩
    rw [Tells, List.filter_append, hblocked.filter_lasting]
    exact htold hplain

/-- The end of a move that holds no lock: its record is still the one that was loaded, or else it
fails. -/
theorem finish_advances_of_set (ht : s.database.tables = some t) (hk : t.Keyed)
    (hloc : Located t m q r)
    (hsource : q.transition.fromState = (Record.currentState r.state q.workflow).state)
    (hset : (Record.currentState r.state q.workflow).defaulted = false)
    (hadvances : Advances p s notes v) (hfree : v.database.locked = false) :
    Advances p s (notes ++ [.moved m (failureOf (finish v m (opened t m q r openedAt)).1)])
        (finish v m (opened t m q r openedAt)).2 ∧
      (finish v m (opened t m q r openedAt)).2.database.locked = false := by
  have hpending := (opened_of_set t m openedAt hset).2
  have hkeyed : v.database.Keyed :=
    hadvances.keyed fun t' ht' => by rw [ht] at ht'; cases ht'; exact hk
  rcases finish_cases v m (opened t m q r openedAt) with
    ⟨e, he, hlimits, hdatabase⟩ | ⟨result, db, -, hcomplete, hdone⟩
  · rw [Transaction.rollback_of_none hpending] at hdatabase
    rw [he]
    exact ⟨hadvances.trans (.of_eq hlimits (by rw [hdatabase]) rfl), by rw [hdatabase, hfree]⟩
  · by_cases hdrop : p (.operation .dropTables)
    · -- the tables may have been made anew meanwhile, and all that is left is what is written
      obtain ⟨u, w, writes, hu, hwritten, rfl⟩ :=
        complete_written (opened_loaded t m q r openedAt) hpending hkeyed hcomplete
      rw [hdone]
      refine ⟨hadvances.trans (.of_change (c := .commit writes) rfl ?_ (Or.inr hdrop)
        fun hplain => absurd hdrop hplain.1), rfl⟩
      rw [hu]
      exact .commit hwritten
    · obtain ⟨u, hu, hgrows⟩ := hadvances.grows hdrop ht hk
      have hku := hkeyed u hu
      obtain ⟨hr, hauthorized, hmet, -, -, hafter⟩ := (finish_eq_ok_iff hu hku hloc hgrows
        (fun h => by rw [Record.currentState_defaulted, h] at hset; cases hset)
        (fun _ => hfree)).1 hdone
      rw [hdone, hafter]
      refine ⟨hadvances.trans (.of_change (c := .move m q r v.now (.ofClock v.clock)) rfl ?_ trivial
        fun _ => rfl), rfl⟩
      rw [hu]
      exact .move ⟨hloc.mono hgrows hr (.refl r), hsource, hauthorized, hmet⟩

end Move

/-- A move is a history if what runs meanwhile is. -/
theorem Step.move_advances {p : Step → Prop} {s : System} (hfree : s.database.locked = false)
    (hk : s.database.Keyed) (m : Move) {steps : List Step}
    (hsteps : ∀ u : System, u.database.Keyed → u.database.locked = false →
      Advances p u (notesAll steps (runAll u steps).1) (runAll u steps).2 ∧
        (runAll u steps).2.database.locked = false)
    (hlocked : ∀ u : System, u.database.Keyed → u.database.locked = true →
      Blocked u (notesAll steps (runAll u steps).1) (runAll u steps).2) :
    Advances p s ((Step.move m steps).notes ((Step.move m steps).run s).1)
        ((Step.move m steps).run s).2 ∧
      ((Step.move m steps).run s).2.database.locked = false := by
  cases hreached : reached? s m with
  | none =>
    obtain ⟨e, he⟩ := execute_of_none hreached fun s => runAll s steps
    obtain ⟨hnotes, hsystem⟩ := Step.run_move_of_error he
    rw [hnotes, hsystem]
    exact ⟨.of_eq rfl rfl rfl, hfree⟩
  | some reached =>
    obtain ⟨o, u⟩ := reached
    obtain ⟨hnotes, hsystem⟩ := Step.run_move_of_some hreached steps
    rw [hnotes, hsystem]
    obtain ⟨t, q, r, ht, hloc, hsource, -, rfl, rfl⟩ := reached?_cases hk hreached
    cases hdefaulted : (Record.currentState r.state q.workflow).defaulted with
    | true =>
      refine finish_advances_of_unset ht (hk t ht) hloc hsource hdefaulted ?_
      rw [held_of_unset hdefaulted]
      exact meanwhile_ind (.refl _) (hlocked _ hk rfl)
    | false =>
      have hmeanwhile := meanwhile_ind (o := opened t m q r s.now)
        (P := fun notes v => Advances p s notes v ∧ v.database.locked = false)
        ⟨.refl p s, hfree⟩ (hsteps s hk hfree)
      rw [held_of_set hdefaulted, System.withDatabase_self]
      exact finish_advances_of_set ht (hk t ht) hloc hsource hdefaulted hmeanwhile.1 hmeanwhile.2

/-! ## Scripts -/

/-- In the middle of a script: a history has led from where it began to what everybody else sees,
and what the script itself sees is that with its writes, for which it holds the lock. -/
structure Underway (p : Step → Prop) (s : System) (notes : List Note) (x : Scripted)
    (writes : List Write) : Prop extends x.Holds writes where
  advances : Advances p s notes x.system
  locked : x.system.database.locked = x.tx.pending.isSome

namespace Underway

variable {p : Step → Prop} {s : System} {notes more : List Note} {x : Scripted}
  {writes : List Write}

theorem start (hfree : s.database.locked = false) : Underway p s [] { system := s } [] :=
  ⟨.start s, .refl p s, hfree⟩

/-- What is noted of a part of the script itself does not last yet. -/
theorem note (h : Underway p s notes x writes) (hmore : more.filter Note.lasting = []) :
    Underway p s (notes ++ more) x writes :=
  { h with advances := h.advances.trans (.of_eq rfl rfl hmore) }

theorem load (h : Underway p s notes x writes) {entityId recordId : String}
    {found : Option Record} {tx : Transaction}
    (hload : x.tx.load x.system.database entityId recordId = .ok (found, tx)) :
    Underway p s notes { x with tx } writes :=
  ⟨h.toHolds.load hload, h.advances, by rw [Transaction.load_pending hload]; exact h.locked⟩

/-- A write of the script takes the lock, and only the script sees it. -/
theorem write (h : Underway p s notes x writes) {tx : Transaction} {others : List Write}
    (hholds : Scripted.Holds
      { system := x.system.withDatabase { x.system.database with locked := true }, tx } others)
    (hpending : tx.pending.isSome = true) :
    Underway p s notes
      { system := x.system.withDatabase { x.system.database with locked := true }, tx } others :=
  ⟨hholds, h.advances.congr rfl rfl, hpending.symm⟩

/-- Other steps run in the middle of the script.  They change what everybody sees, unless the script
has written. -/
theorem outside (h : Underway p s notes x writes) {v : System}
    (hfree : x.system.database.locked = false →
      Advances p x.system more v ∧ v.database.locked = false)
    (hlocked : x.system.database.locked = true → Blocked x.system more v) :
    Underway p s (notes ++ more) { x with system := v } writes := by
  have hl := h.locked
  cases hpending : x.tx.pending with
  | none =>
    rw [hpending] at hl
    obtain ⟨hadvances, hl'⟩ := hfree hl
    refine ⟨h.toHolds.outside fun hsome => ?_, h.advances.trans hadvances, ?_⟩
    · rw [hpending] at hsome
      cases hsome
    · dsimp only
      rw [hpending, hl']
      rfl
  | some u =>
    rw [hpending] at hl
    have hblocked := hlocked hl
    exact ⟨h.toHolds.outside fun _ => hblocked.database, h.advances.trans (.of_blocked hblocked),
      by rw [hblocked.database, h.locked]⟩

/-- A script that comes to its end has made one change, if it has written at all. -/
theorem commit (h : Underway p s notes x writes)
    (hp : (∃ script, p (.transaction script)) ∨ p (.operation .dropTables)) :
    Advances p s (notes ++ (Note.committed? (writes.filterMap Write.savedId?)).toList) x.commit ∧
      x.commit.database.locked = false := by
  rw [Scripted.commit]
  cases hpending : x.tx.pending with
  | none =>
    rw [Transaction.commit_of_none hpending, h.none hpending]
    refine ⟨?_, ?_⟩
    · rw [List.filterMap_nil, Note.committed?, Option.toList_none, List.append_nil]
      exact h.advances
    · have hl := h.locked
      rw [hpending] at hl
      exact hl
  | some u =>
    rw [Transaction.commit_of_pending hpending]
    obtain ⟨t, ht, hwritten⟩ := h.written u (by rw [Transaction.view, hpending])
    refine ⟨h.advances.trans (.of_change (c := .commit writes) rfl ?_ hp fun _ => ?_), rfl⟩
    · rw [ht]
      exact .commit hwritten
    · rw [Tells, Note.committed?_filter_lasting]
      cases hsaved : writes.filterMap Write.savedId? with
      | nil => simp [Change.note?, hsaved, Note.committed?]
      | cons id ids => simp [Change.note?, hsaved, Note.committed?]

/-- A script that fails leaves behind what others have done meanwhile. -/
theorem rollback (h : Underway p s notes x writes) :
    Advances p s notes x.rollback ∧ x.rollback.database.locked = false := by
  rw [Scripted.rollback]
  cases hpending : x.tx.pending with
  | none =>
    rw [Transaction.rollback_of_none hpending]
    have hl := h.locked
    rw [hpending] at hl
    exact ⟨h.advances, hl⟩
  | some u =>
    rw [Transaction.rollback_of_pending hpending]
    exact ⟨h.advances.congr rfl rfl, rfl⟩

end Underway

/-! ## Runs -/

section Runs

variable {p : Step → Prop}

mutual

/-- **A step is a history**, unless somebody else is writing. -/
theorem Step.run_advances (hp : ∀ r, ¬ p (.request r)) : ∀ (step : Step), step.Throughout p →
    ∀ s : System, s.database.Keyed → s.database.locked = false →
    Advances p s (step.notes (step.run s).1) (step.run s).2 ∧
      (step.run s).2.database.locked = false
  | .operation o, h, s, _, hfree => by
    have ho : p (.operation o) := h
    rw [Step.run, Step.notes]
    exact o.run_advances ho hfree
  | .move m steps, h, s, hk, hfree =>
    Step.move_advances hfree hk m (runAll_advances hp steps h.2)
      fun u hku hl => runAll_locked hp steps h.2 u hl hku
  | .transaction script, h, s, hk, hfree => by
    have hscript := runScript_advances hp script h.2 s hk [] { system := s } [] (.start hfree)
    rw [Step.run]
    cases hrun : runScript { system := s } script with
    | mk outcomes rest =>
      obtain ⟨failure, x⟩ := rest
      rw [hrun] at hscript
      obtain ⟨writes, hunderway, hputs⟩ := hscript
      cases failure with
      | none =>
        dsimp only
        rw [Step.notes, ← (hputs rfl).savedIds]
        exact hunderway.commit (Or.inl ⟨script, h.1⟩)
      | some e =>
        dsimp only
        rw [Step.notes]
        exact hunderway.rollback
        nofun
  | .request r, h, _, _, _ => absurd h (hp r)
  | .wait moment, _, s, _, hfree => by
    simp only [Step.run, Step.notes]
    exact ⟨.of_eq rfl rfl rfl, hfree⟩
  | .withdraw parts, _, s, _, hfree => by
    simp only [Step.run, Step.notes]
    exact ⟨.of_eq rfl rfl rfl, hfree⟩

/-- **A run is a history**, unless somebody else is writing. -/
theorem runAll_advances (hp : ∀ r, ¬ p (.request r)) : ∀ (steps : List Step),
    Step.AllThroughout p steps → ∀ s : System, s.database.Keyed → s.database.locked = false →
    Advances p s (notesAll steps (runAll s steps).1) (runAll s steps).2 ∧
      (runAll s steps).2.database.locked = false
  | [], _, s, _, hfree => ⟨.refl p s, hfree⟩
  | step :: rest, h, s, hk, hfree => by
    obtain ⟨hstep, hfree₁⟩ := step.run_advances hp h.1 s hk hfree
    obtain ⟨hrest, hfree'⟩ := runAll_advances hp rest h.2 _ (hstep.keyed hk) hfree₁
    rw [runAll, notesAll]
    exact ⟨hstep.trans hrest, hfree'⟩

/-- A part of a script adds at most one write to it. -/
theorem Action.run_advances (hp : ∀ r, ¬ p (.request r)) : ∀ (action : Action),
    action.Throughout p → ∀ s : System, s.database.Keyed →
    ∀ (notes : List Note) (x : Scripted) (writes : List Write), Underway p s notes x writes →
    ∃ more, Underway p s (notes ++ action.notes (action.run x).1) (action.run x).2
        (writes ++ more) ∧
      ∀ outcome, (action.run x).1 = .ok outcome → action.Puts x.system.now more
  | .load entityId recordId, _, s, _, notes, x, writes, hx => by
    refine ⟨[], ?_, fun _ _ => .load⟩
    rw [Action.run, Scripted.afterRead.eq_def, List.append_nil]
    cases hload : x.tx.load x.system.database entityId recordId with
    | error e => exact hx.note rfl
    | ok done => exact (hx.load hload).note rfl
  | .saveState recordId state actor, _, s, hk, notes, x, writes, hx => by
    rw [Action.run, Scripted.afterWrite.eq_def]
    cases hsave : x.tx.saveState x.system.database recordId state actor x.system.now with
    | error e =>
      refine ⟨[], ?_, nofun⟩
      rw [List.append_nil]
      exact hx.note rfl
    | ok done =>
      obtain ⟨record, tx, db⟩ := done
      obtain ⟨old, v, hold, hv, -, hrow, rfl, rfl, rfl⟩ := Transaction.saveState_eq_ok_iff.1 hsave
      have hholds :=
        hx.toHolds.save (hx.advances.keyed hk) hold hv hrow state actor x.system.now
      exact ⟨[.save recordId state actor x.system.now], (hx.write hholds rfl).note rfl,
        fun _ _ => .save⟩
  | .appendAudit entry, _, s, _, notes, x, writes, hx => by
    rw [Action.run, Scripted.afterWrite.eq_def]
    cases hentry : x.tx.appendAudit x.system.database entry with
    | error e =>
      refine ⟨[], ?_, nofun⟩
      rw [List.append_nil]
      exact hx.note rfl
    | ok done =>
      obtain ⟨given, tx, db⟩ := done
      obtain ⟨-, metadata, v, _, hmetadata, hv, -, rfl, hnew, -, rfl, rfl⟩ :=
        Transaction.appendAudit_eq_ok_iff.1 hentry
      exact ⟨[.entry (entry.kept _ metadata)],
        (hx.write (hx.toHolds.entry hv hnew) rfl).note rfl, fun _ _ => .entry hmetadata⟩
  | .outside steps, h, s, hk, notes, x, writes, hx => by
    refine ⟨[], ?_, fun _ _ => .outside⟩
    have hkx := hx.advances.keyed hk
    rw [Action.run, Action.notes, List.append_nil]
    exact hx.outside (runAll_advances hp steps h x.system hkx)
      fun hl => runAll_locked hp steps h x.system hl hkx
  | .fail failure, _, s, _, notes, x, writes, hx => by
    refine ⟨[], ?_, nofun⟩
    rw [Action.run, List.append_nil]
    exact hx.note rfl

/-- A script adds its writes to those before it, as far as it gets. -/
theorem runScript_advances (hp : ∀ r, ¬ p (.request r)) : ∀ (script : List Action),
    Action.AllThroughout p script → ∀ s : System, s.database.Keyed →
    ∀ (notes : List Note) (x : Scripted) (writes : List Write), Underway p s notes x writes →
    ∃ more, Underway p s
        (notes ++ scriptNotes script (runScript x script).1 (runScript x script).2.1)
        (runScript x script).2.2 (writes ++ more) ∧
      ((runScript x script).2.1 = none → Action.PutsAll x script more)
  | [], _, s, _, notes, x, writes, hx => by
    refine ⟨[], ?_, fun _ => .nil⟩
    rw [runScript, scriptNotes_nil_left, List.append_nil, List.append_nil]
    exact hx
  | action :: rest, h, s, hk, notes, x, writes, hx => by
    obtain ⟨more, haction, hputs⟩ := action.run_advances hp h.1 s hk notes x writes hx
    rw [runScript]
    cases hrun : action.run x with
    | mk result x₁ =>
      rw [hrun] at haction hputs
      cases result with
      | error failure => exact ⟨more, haction, nofun⟩
      | ok outcome =>
        obtain ⟨others, hrest, hputsAll⟩ := runScript_advances hp rest h.2 s hk _ x₁ _ haction
        refine ⟨more ++ others, ?_, fun hdone => .cons (hputs outcome rfl) ?_⟩
        · rw [List.append_assoc, List.append_assoc] at hrest
          exact hrest
        · rw [hrun]
          exact hputsAll hdone

end

/-- A step is a history in any case: if somebody else is writing, one without changes. -/
theorem Step.run_advances_always (hp : ∀ r, ¬ p (.request r)) {step : Step}
    (hstep : step.Throughout p) {s : System} (hk : s.database.Keyed) :
    Advances p s (step.notes (step.run s).1) (step.run s).2 := by
  cases hl : s.database.locked with
  | true => exact .of_blocked (step.run_locked hp hstep s hl hk)
  | false => exact (step.run_advances hp hstep s hk hl).1

/-- Everything that leads to a reachable system is a history that began in the empty database. -/
theorem Reachable.advances (hp : ∀ r, ¬ p (.request r)) {s : System} {notes : List Note}
    (h : Reachable p s notes) : ∃ s₀ : System, s₀.database = {} ∧ Advances p s₀ notes s := by
  have hkeyed : ∀ {s₀ s : System} {notes : List Note}, s₀.database = {} →
      Advances p s₀ notes s → s.database.Keyed := fun hstart hs => hs.keyed fun t ht => by
    rw [hstart] at ht
    cases ht
    exact Tables.keyed_empty
  induction h with
  | @start s hstart => exact ⟨s, hstart, .refl p s⟩
  | step _ hstep ih =>
    obtain ⟨s₀, hstart, hs⟩ := ih
    exact ⟨s₀, hstart, hs.trans (Step.run_advances_always hp hstep (hkeyed hstart hs))⟩
  | @during s u notes m o _ hreached ih =>
    obtain ⟨s₀, hstart, hs⟩ := ih
    obtain ⟨t, q, r, -, -, -, -, rfl, rfl⟩ := reached?_cases (hkeyed hstart hs) hreached
    exact ⟨s₀, hstart, hs.congr rfl (held_tables _ _)⟩
  | @within s x notes script outcomes _ hscript hrun ih =>
    obtain ⟨s₀, hstart, hs⟩ := ih
    refine ⟨s₀, hstart, hs.trans ?_⟩
    have hk := hkeyed hstart hs
    cases hl : s.database.locked with
    | true =>
      have hblocked := (runScript_locked hp script hscript.2 { system := s } rfl hl hk).1
      rw [hrun] at hblocked
      exact .of_blocked hblocked
    | false =>
      obtain ⟨more, hunderway, -⟩ :=
        runScript_advances hp script hscript.2 s hk [] { system := s } [] (.start hl)
      rw [hrun] at hunderway
      exact hunderway.advances

/-- **Every reachable system has a history**: the changes that have led to it from the empty
tables, which notes tell of. -/
theorem Reachable.history (hp : ∀ r, ¬ p (.request r)) {s : System} {notes : List Note}
    (h : Reachable p s notes) :
    ∃ changes, History s.limits (some {}) changes s.database.tables ∧
      (∀ c ∈ changes, c.Within p) ∧ (Plain p → Tells notes changes) := by
  obtain ⟨s₀, hstart, hs⟩ := h.advances hp
  have hhistory := hs.history
  rwa [hstart, ← hs.limits] at hhistory

/-- Keys are unique in every reachable system. -/
theorem Reachable.keyed (hp : ∀ r, ¬ p (.request r)) {s : System} {notes : List Note}
    (h : Reachable p s notes) : s.database.Keyed := by
  obtain ⟨changes, hhistory, -⟩ := h.history hp
  refine hhistory.keyed fun t ht => ?_
  cases ht
  exact Tables.keyed_empty

end Runs
end RecordRules
