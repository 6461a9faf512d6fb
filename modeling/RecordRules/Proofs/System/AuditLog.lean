import RecordRules.Proofs.System.Atomicity
import RecordRules.Proofs.System.Justification
import RecordRules.Proofs.System.Saving

/-!
# The audit log

Audit entries are only ever added, behind all that are there.  Listed newest first, they stand in
the reverse of the order in which they were committed; when they were performed plays no role.

* `Change.Commits` says which entries a change adds, and `History.audit` that the tables have the
  entries of all changes since they were made, one after the other.
* `Step.inside` is the system that the steps inside a step leave, and `Step.asks` are the entries
  that the step itself wants to add.  `Step.run_audit`: it adds all of them behind those that it
  finds there, or none if it fails.
* `Reachable.auditLog_append_only` is the theorem.
-/

set_option autoImplicit false

namespace RecordRules

open Workflow

/-! ## Listings -/

/-- The entry is about a record of an entity. -/
def AuditEntry.isAbout (a : AuditEntry) (entityId recordId : String) : Bool :=
  a.entityId == entityId && a.recordId == recordId

/-- The entries about a record, the last one first. -/
def newestFirst (entries : List AuditEntry) (entityId recordId : String) : List AuditEntry :=
  (entries.filter fun a => a.isAbout entityId recordId).reverse

theorem newestFirst_append (entries more : List AuditEntry) (entityId recordId : String) :
    newestFirst (entries ++ more) entityId recordId =
      newestFirst more entityId recordId ++ newestFirst entries entityId recordId := by
  rw [newestFirst, List.filter_append, List.reverse_append]
  rfl

theorem Database.auditLog_eq_ok_iff {db : Database} {entityId recordId : String}
    {log : List AuditEntry} :
    db.auditLog entityId recordId = .ok log ↔
      ∃ t, db.tables = some t ∧ log = newestFirst t.audit entityId recordId := by
  rw [Database.auditLog, read_eq_ok_iff]
  simp only [Except.ok.injEq, eq_comm]
  rfl

/-! ## Entries of changes -/

/-- The entries that a change of the tables adds. -/
inductive Change.Commits : Change → List AuditEntry → Prop
  | insert {i : Insert} : Commits (.insert i) []
  | move {m : Move} {q : Plan} {r : Record} {savedAt performedAt : Moment} {id : String} :
    Commits (.move m q r savedAt performedAt) [movedEntry m q r id performedAt]
  | commit {writes : List Write} : Commits (.commit writes) (writes.filterMap Write.entry?)
  | create : Commits .create []

/-- The entries that changes add one after the other. -/
inductive Change.CommitsAll : List Change → List AuditEntry → Prop
  | nil : CommitsAll [] []
  | cons {c : Change} {rest : List Change} {entries more : List AuditEntry}
    (h : c.Commits entries) (hrest : CommitsAll rest more) :
    CommitsAll (c :: rest) (entries ++ more)

/-- The entries in tables, if there are any. -/
def entriesIn (o : Option Tables) : List AuditEntry := o.elim [] Tables.audit

section History

variable {limits : Expression.Limits} {o o' : Option Tables} {c : Change} {changes : List Change}

theorem Change.Makes.audit (h : c.Makes limits o o') (hdrop : c ≠ .drop) :
    ∃ entries, c.Commits entries ∧ entriesIn o' = entriesIn o ++ entries := by
  cases h with
  | @insert t i _ =>
    refine ⟨[], .insert, ?_⟩
    rw [List.append_nil]
    exact Insert.apply_audit t i
  | @move t m q r savedAt performedAt _ =>
    exact ⟨[movedEntry m q r (freshId (t.audit.filterMap AuditEntry.id)) performedAt], .move, rfl⟩
  | commit hwritten =>
    refine ⟨_, .commit, ?_⟩
    rw [hwritten.eq]
    rfl
  | create => exact ⟨[], .create, rfl⟩
  | drop => exact absurd rfl hdrop

/-- **The entries in the tables are those of all changes since the tables were made.**  They are in
the order of the changes. -/
theorem History.audit (h : History limits o changes o') :
    ∃ earlier later entries, changes = earlier ++ later ∧ (∀ c ∈ earlier.getLast?, c = .drop) ∧
      Change.CommitsAll later entries ∧
      entriesIn o' = (if earlier = [] then entriesIn o else []) ++ entries := by
  induction h with
  | nil o => exact ⟨[], [], [], rfl, by simp, .nil, by simp⟩
  | @cons o o₁ o' c rest hc _ ih =>
    obtain ⟨earlier, later, entries, rfl, hlast, hcommits, haudit⟩ := ih
    by_cases hnone : earlier = []
    · subst hnone
      rw [if_pos rfl] at haudit
      by_cases hdrop : c = .drop
      · -- the tables are gone, and with them their entries
        subst hdrop
        cases hc
        exact ⟨[.drop], later, entries, rfl, by simp, hcommits, haudit⟩
      · obtain ⟨new, hnew, hadded⟩ := hc.audit hdrop
        refine ⟨[], c :: later, new ++ entries, rfl, by simp, .cons hnew hcommits, ?_⟩
        rw [if_pos rfl, haudit, hadded, List.append_assoc]
    · refine ⟨c :: earlier, later, entries, rfl, ?_, hcommits, ?_⟩
      · rwa [List.getLast?_cons_of_ne_nil hnone]
      · rw [haudit, if_neg hnone, if_neg (List.cons_ne_nil _ _)]

end History

/-! ## What single steps add -/

/-- The failure that a reply reports, if it does. -/
def Reply.failure? : Reply → Option Failure
  | .answer a => a.failure?
  | .moved result _ _ => failureOf result
  | .transaction _ failure => failure
  | .response r => failureOf r

/-- The system that the steps inside a step leave. -/
def Step.inside (s : System) : Step → System
  | .move m steps =>
    match reached? s m with
    | none => s
    | some (o, u) => (meanwhile u o steps).2
  | .transaction script => s.without (script.take (runScript { system := s } script).1.length)
  | _ => s

/-- The entries that a step wants to add itself. -/
def Step.asks (s : System) : Step → List AuditEntry
  | .move m steps =>
    match reached? s m with
    | none => []
    | some (o, u) => [auditEntry m o (.ofClock (meanwhile u o steps).2.clock)]
  | .transaction script => script.filterMap Action.entry?
  | _ => []

/-- No other steps run inside the step. -/
def Step.Alone : Step → Prop
  | .move _ steps => steps = []
  | .transaction script => ∀ steps, .outside steps ∉ script
  | _ => True

theorem Action.unhindered_eq_nil {script : List Action} (h : ∀ steps, .outside steps ∉ script) :
    Action.unhindered script = [] := by
  induction script with
  | nil => rfl
  | cons action rest ih =>
    cases action with
    | load entityId recordId => exact ih fun steps hmem => h steps (List.mem_cons_of_mem _ hmem)
    | outside steps => exact absurd (List.mem_cons_self ..) (h steps)
    | _ => rfl

theorem Scripted.PassesAll.length_eq {x y : Scripted} {script : List Action}
    {outcomes : List Outcome} (h : x.PassesAll script outcomes y) :
    outcomes.length = script.length := by
  induction h with
  | nil => rfl
  | cons _ _ ih => rw [List.length_cons, List.length_cons, ih]

theorem Transaction.rollback_tables (tx : Transaction) (db : Database) :
    (tx.rollback db).tables = db.tables := by
  rw [rollback]
  split <;> rfl

namespace Database

/-- The tables stay, and some entries are added to them. -/
def AddsEntries (db : Database) (entries : List AuditEntry) (db' : Database) : Prop :=
  ∀ t, db.tables = some t → ∃ u, db'.tables = some u ∧ u.audit = t.audit ++ entries

variable {db db₁ db' : Database} {entries more : List AuditEntry}

theorem AddsEntries.of_tables (h : db'.tables = db.tables) : db.AddsEntries [] db' :=
  fun t ht => ⟨t, h.trans ht, (List.append_nil _).symm⟩

theorem AddsEntries.trans (h : db.AddsEntries entries db₁) (h' : db₁.AddsEntries more db') :
    db.AddsEntries (entries ++ more) db' := by
  intro t ht
  obtain ⟨u, hu, hentries⟩ := h t ht
  obtain ⟨v, hv, hmore⟩ := h' u hu
  exact ⟨v, hv, by rw [hmore, hentries, List.append_assoc]⟩

theorem AddsEntries.auditLog (h : db.AddsEntries entries db') {entityId recordId : String}
    {log : List AuditEntry} (hlog : db.auditLog entityId recordId = .ok log) :
    db'.auditLog entityId recordId = .ok (newestFirst entries entityId recordId ++ log) := by
  obtain ⟨t, ht, rfl⟩ := auditLog_eq_ok_iff.1 hlog
  obtain ⟨u, hu, hentries⟩ := h t ht
  exact auditLog_eq_ok_iff.2 ⟨u, hu, by rw [hentries, newestFirst_append]⟩

theorem Inserts.addsEntries {i : Insert} (h : db.Inserts i db') : db.AddsEntries [] db' := by
  obtain ⟨t, ht, -, -, rfl⟩ := h
  intro u hu
  rw [ht] at hu
  cases hu
  exact ⟨_, rfl, by rw [Insert.apply_audit, List.append_nil]⟩

theorem InsertsAll.addsEntries {is : List Insert} (h : db.InsertsAll is db') :
    db.AddsEntries [] db' := by
  induction h with
  | nil db => exact .of_tables rfl
  | cons hi _ ih => exact hi.addsEntries.trans ih

end Database

/-- No operation adds an entry by itself. -/
theorem Operation.run_audit {o : Operation} (hdrop : o ≠ .dropTables) (s : System) :
    s.database.AddsEntries [] (o.run s).2.database := by
  obtain ⟨-, hsame | hwrites⟩ := o.run_cases s
  · exact .of_tables (by rw [hsame])
  · rcases hwrites.effect with ⟨is, -, his⟩ | ⟨-, hnone, -⟩ | ⟨hdrops, -⟩
    · exact his.addsEntries
    · intro t ht
      rw [hnone] at ht
      cases ht
    · exact absurd hdrops hdrop

/-- What the transaction of a move sees has the entries that everybody else sees: with its first
write it has taken the lock. -/
theorem Workflow.opened_view_audit {t v : Tables} {m : Move} {q : Plan} {r : Record} {db : Database}
    {openedAt : Moment}
    (hheld : (Record.currentState r.state q.workflow).defaulted = true → db.tables = some t)
    (hview : (opened t m q r openedAt).tx.view db = some v) :
    ∃ u, db.tables = some u ∧ v.audit = u.audit := by
  rw [Transaction.view] at hview
  cases hdefaulted : (Record.currentState r.state q.workflow).defaulted with
  | false =>
    rw [(opened_of_set _ _ _ hdefaulted).2] at hview
    exact ⟨v, hview, rfl⟩
  | true =>
    rw [(opened_of_unset _ _ _ hdefaulted).2] at hview
    cases hview
    exact ⟨t, hheld hdefaulted, rfl⟩

/-- The end of a move adds its entry, or none if the move fails. -/
theorem Workflow.finish_audit {t : Tables} {m : Move} {q : Plan} {r : Record} {v : System}
    {openedAt : Moment} (hheld : (Record.currentState r.state q.workflow).defaulted = true →
      v.database.tables = some t) :
    ∃ own, v.database.AddsEntries own (finish v m (opened t m q r openedAt)).2.database ∧
      ((failureOf (finish v m (opened t m q r openedAt)).1).isSome = true → own = []) ∧
      (failureOf (finish v m (opened t m q r openedAt)).1 = none →
        List.Forall₂ AuditEntry.KeptAs [auditEntry m (opened t m q r openedAt) (.ofClock v.clock)]
          own) := by
  rcases finish_cases v m (opened t m q r openedAt) with
    ⟨e, he, -, hdatabase⟩ | ⟨result, db, -, hcomplete, hdone⟩
  · rw [he]
    refine ⟨[], .of_tables ?_, fun _ => rfl, nofun⟩
    rw [hdatabase, Transaction.rollback_tables]
  · rw [hdone]
    obtain ⟨-, seen, hview, -, -, -, rfl⟩ :=
      (complete_eq_ok_iff (opened_loaded t m q r openedAt)).1 hcomplete
    obtain ⟨u, hu, haudit⟩ := opened_view_audit hheld hview
    have hkept : (auditEntry m (opened t m q r openedAt) (.ofClock v.clock)).KeptAs
        ((auditEntry m (opened t m q r openedAt) (.ofClock v.clock)).kept
          (freshId (seen.audit.filterMap AuditEntry.id)) (some [])) :=
      ⟨seen.audit.filterMap AuditEntry.id, some [], rfl, rfl⟩
    refine ⟨_, fun u' hu' => ⟨_, rfl, ?_⟩, nofun, fun _ => .cons hkept .nil⟩
    rw [hu] at hu'
    cases hu'
    rw [← haudit]
    rfl

section Steps

variable {p : Step → Prop} (hp : ∀ r, ¬ p (.request r)) (hdrop : ¬ p (.operation .dropTables))
  {s : System}
include hp

/-- A move adds its entry behind those that are there at its end, or none if it fails. -/
theorem Step.move_audit {m : Move} {steps : List Step} (hsteps : Step.AllThroughout p steps)
    (hk : s.database.Keyed) :
    ∃ own, ((Step.move m steps).inside s).database.AddsEntries own
        ((Step.move m steps).run s).2.database ∧
      (((Step.move m steps).run s).1.failure?.isSome = true → own = []) ∧
      (((Step.move m steps).run s).1.failure? = none →
        List.Forall₂ AuditEntry.KeptAs ((Step.move m steps).asks s) own) := by
  have hfailure : ((Step.move m steps).run s).1.failure? =
      failureOf (execute s m fun s => runAll s steps).1 := by
    rw [Step.run]
    rfl
  rw [hfailure, (Step.run_move s m steps).2, Step.inside, Step.asks]
  cases hreached : reached? s m with
  | none =>
    obtain ⟨e, he⟩ := execute_of_none hreached fun s => runAll s steps
    rw [he]
    exact ⟨[], .of_tables rfl, fun _ => rfl, nofun⟩
  | some reached =>
    obtain ⟨o, u⟩ := reached
    obtain ⟨hresult, hsystem⟩ : (execute s m fun s => runAll s steps).1 =
        (finish (meanwhile u o steps).2 m o).1 ∧ (execute s m fun s => runAll s steps).2.2 =
          (finish (meanwhile u o steps).2 m o).2 := by
      rw [execute_of_some hreached, interlude, meanwhile]
      cases o.plan.transition.isRestricted <;> exact ⟨rfl, rfl⟩
    rw [hresult, hsystem]
    dsimp only
    obtain ⟨t, q, r, ht, -, -, -, rfl, rfl⟩ := reached?_cases hk hreached
    refine finish_audit fun hdefaulted => ?_
    -- the move has written, and nobody else can
    rw [held_of_unset hdefaulted]
    have hblocked := meanwhile_ind (P := fun notes v => Blocked _ notes v)
      (o := opened t m q r s.now) (.refl _) (runAll_locked hp steps hsteps
        (s.withDatabase { s.database with locked := true }) rfl hk)
    rw [hblocked.database]
    exact ht

include hdrop

/-- Steps leave all entries where they are. -/
theorem runAll_audit {steps : List Step} (hsteps : Step.AllThroughout p steps)
    (hk : s.database.Keyed) :
    ∃ entries, s.database.AddsEntries entries (runAll s steps).2.database ∧
      (steps = [] → entries = []) := by
  cases steps with
  | nil => exact ⟨[], .of_tables rfl, fun _ => rfl⟩
  | cons step rest =>
    cases ht : s.database.tables with
    | none =>
      refine ⟨[], fun t h => ?_, fun _ => rfl⟩
      rw [ht] at h
      cases h
    | some t =>
      cases hl : s.database.locked with
      | true =>
        have hblocked := runAll_locked hp (step :: rest) hsteps s hl hk
        exact ⟨[], .of_tables (by rw [hblocked.database]), fun _ => rfl⟩
      | false =>
        have hadvances := (runAll_advances hp (step :: rest) hsteps s hk hl).1
        obtain ⟨u, hu, hgrows⟩ := hadvances.grows hdrop ht (hk t ht)
        obtain ⟨entries, hentries⟩ := hgrows.audit
        refine ⟨entries, fun t' ht' => ⟨u, hu, ?_⟩, nofun⟩
        rw [ht] at ht'
        cases ht'
        exact hentries.symm

/-- What runs inside a step leaves all entries, and adds none if there is nothing. -/
theorem Step.inside_audit {step : Step} (hstep : step.Throughout p) (hk : s.database.Keyed) :
    ∃ entries, s.database.AddsEntries entries (step.inside s).database ∧
      (step.Alone → entries = []) := by
  cases step with
  | move m steps =>
    rw [Step.inside]
    cases hreached : reached? s m with
    | none => exact ⟨[], .of_tables rfl, fun _ => rfl⟩
    | some reached =>
      obtain ⟨o, u⟩ := reached
      obtain ⟨t, q, r, ht, -, -, -, -, rfl⟩ := reached?_cases hk hreached
      have hsame : s.database.AddsEntries [] (s.withDatabase (held s.database o)).database :=
        .of_tables (held_tables _ _)
      have hku : (s.withDatabase (held s.database o)).database.Keyed := fun t' ht' =>
        hk t' (by rw [← held_tables s.database o]; exact ht')
      obtain ⟨entries, hentries, hnone⟩ := runAll_audit hp hdrop hstep.2 hku
      dsimp only
      rw [meanwhile]
      split
      · exact ⟨entries, hsame.trans hentries, hnone⟩
      · exact ⟨[], hsame, fun _ => rfl⟩
  | transaction script =>
    have htaken : ∀ n, Action.AllThroughout p (script.take n) := fun n =>
      (Action.AllThroughout.of_append (by rw [List.take_append_drop]; exact hstep.2)).1
    obtain ⟨entries, hentries, hnone⟩ :=
      runAll_audit hp hdrop (Action.throughout_unhindered _ (htaken _)) hk
    exact ⟨entries, hentries, fun halone => hnone (Action.unhindered_eq_nil fun steps hmem =>
      halone steps (List.mem_of_mem_take hmem))⟩
  | _ => exact ⟨[], .of_tables rfl, fun _ => rfl⟩

/-- **A step adds its own entries behind those of the steps inside it**, or none if it fails. -/
theorem Step.run_audit {step : Step} (hstep : step.Throughout p) (hk : s.database.Keyed) :
    ∃ own, (step.inside s).database.AddsEntries own (step.run s).2.database ∧
      ((step.run s).1.failure?.isSome = true → own = []) ∧
      ((step.run s).1.failure? = none → List.Forall₂ AuditEntry.KeptAs (step.asks s) own) := by
  cases step with
  | operation o =>
    have hkeeps : o ≠ .dropTables := fun h => hdrop (h ▸ hstep)
    exact ⟨[], o.run_audit hkeeps s, fun _ => rfl, fun _ => .nil⟩
  | move m steps => exact Step.move_audit hp hstep.2 hk
  | transaction script =>
    have hpasses := runScript_passes script { system := s }
    rw [Step.run, Step.inside]
    cases hscripted : runScript { system := s } script with
    | mk outcomes last =>
      obtain ⟨failure, y⟩ := last
      cases failure with
      | some e =>
        rw [hscripted] at hpasses
        have htaken : Action.AllThroughout p (script.take outcomes.length) :=
          (Action.AllThroughout.of_append (by rw [List.take_append_drop]; exact hstep.2)).1
        exact ⟨[], .of_tables (by rw [hpasses.rollback_eq hp htaken hk]), fun _ => rfl, nofun⟩
      | none =>
        have hdone := passesAll_of_runScript hscripted
        obtain ⟨entries, hkept, hdatabase, -⟩ := hdone.commit_eq hp hstep.2 hk
        refine ⟨entries, fun t ht => ?_, nofun, fun _ => hkept⟩
        rw [hdone.length_eq, List.take_length] at ht
        exact ⟨_, by rw [hdatabase, ht]; rfl, rfl⟩
  | request r => exact absurd hstep (hp r)
  | wait moment => exact ⟨[], .of_tables rfl, fun _ => rfl, fun _ => .nil⟩
  | withdraw parts => exact ⟨[], .of_tables rfl, fun _ => rfl, fun _ => .nil⟩

end Steps

/-! ## Runs -/

/-- **The audit log is append-only and newest first.**  In every reachable system the entries about
a record are listed in the reverse of the order in which they were committed since the tables were
made.  After any further step that leaves the tables in place, whatever the clock shows, they stand
behind those that the steps inside it have committed, and these behind the ones that the step itself
adds: all that it asks for, the last one first, or none if it fails. -/
theorem Reachable.auditLog_append_only {s : System} {notes : List Note}
    (h : Reachable Step.Local s notes) :
    (∀ t, s.database.tables = some t → ∃ earlier changes entries,
      History s.limits (some {}) (earlier ++ changes) (some t) ∧
        (∀ c ∈ earlier.getLast?, c = .drop) ∧ Change.CommitsAll changes entries ∧
        ∀ entityId recordId, s.database.auditLog entityId recordId =
          .ok (newestFirst entries entityId recordId)) ∧
      ∀ (clock : Clock) (step : Step), step.Throughout Step.Keeping →
        ∃ inner own,
          ((step.run { s with clock }).1.failure?.isSome = true → own = []) ∧
          ((step.run { s with clock }).1.failure? = none →
            List.Forall₂ AuditEntry.KeptAs (step.asks { s with clock }) own) ∧
          (step.Alone → inner = []) ∧
          ∀ entityId recordId log, s.database.auditLog entityId recordId = .ok log →
            (step.inside { s with clock }).database.auditLog entityId recordId =
                .ok (newestFirst inner entityId recordId ++ log) ∧
              (step.run { s with clock }).2.database.auditLog entityId recordId =
                .ok (newestFirst own entityId recordId ++
                  (newestFirst inner entityId recordId ++ log)) := by
  refine ⟨fun t ht => ?_, fun clock step hstep => ?_⟩
  · obtain ⟨changes, hhistory, -, -⟩ := h.history not_request_of_local
    rw [ht] at hhistory
    obtain ⟨earlier, later, entries, rfl, hlast, hcommits, haudit⟩ := hhistory.audit
    refine ⟨earlier, later, entries, hhistory, hlast, hcommits, fun entityId recordId => ?_⟩
    have hentries : t.audit = entries := by
      have hsame : t.audit = (if earlier = [] then [] else []) ++ entries := haudit
      rwa [ite_self, List.nil_append] at hsame
    exact Database.auditLog_eq_ok_iff.2 ⟨t, ht, by rw [hentries]⟩
  · have hk : ({ s with clock } : System).database.Keyed := h.keyed not_request_of_local
    obtain ⟨inner, hinner, halone⟩ :=
      Step.inside_audit not_request_of_keeping (fun hdrops => hdrops) hstep hk
    obtain ⟨own, hown, hfails, hsucceeds⟩ :=
      Step.run_audit not_request_of_keeping (fun hdrops => hdrops) hstep hk
    refine ⟨inner, own, hfails, hsucceeds, halone, fun entityId recordId log hlog => ?_⟩
    have hinside := hinner.auditLog hlog
    exact ⟨hinside, hown.auditLog hinside⟩

/-- Ann signs the draft while she is about to sign it. -/
def Paper.signedMeanwhile : Step :=
  .move (signing "draft" (some "ann")) [.move (signing "draft" (some "ann")) []]

/-- The second signature fails, and the log has grown by the first. -/
theorem auditLog_append_only_signing :
    (Paper.signedMeanwhile.run (runAll {} Paper.setUp).2).1.failure?.isSome = true ∧
      ∃ inner log, (runAll {} Paper.setUp).2.database.auditLog "paper" "draft" = .ok log ∧
        (Paper.signedMeanwhile.run (runAll {} Paper.setUp).2).2.database.auditLog "paper" "draft" =
          .ok (newestFirst inner "paper" "draft" ++ log) := by
  have hreachable : Reachable Step.Local (runAll {} Paper.setUp).2 _ :=
    .of_run ⟨trivial, trivial, trivial, trivial, trivial, trivial⟩
  have hfailed : (Paper.signedMeanwhile.run (runAll {} Paper.setUp).2).1.failure?.isSome = true :=
    by decide +kernel
  have hlisted : ((runAll {} Paper.setUp).2.database.auditLog "paper" "draft").isOk = true := by
    decide +kernel
  -- the run is over: from here on only what is known of its system counts
  generalize (runAll {} Paper.setUp).2 = s at *
  obtain ⟨log, hlog⟩ := isOk_iff.1 hlisted
  obtain ⟨inner, own, hnone, -, -, hlogs⟩ := hreachable.auditLog_append_only.2
    s.clock Paper.signedMeanwhile ⟨trivial, ⟨trivial, trivial⟩, trivial⟩
  obtain ⟨-, hafter⟩ := hlogs "paper" "draft" log hlog
  rw [hnone hfailed] at hafter
  exact ⟨hfailed, inner, log, hlog, hafter⟩

/-- A move that fails does not always leave the log as it was: steps inside it may have added to
it. -/
theorem auditLog_grows_in_failed_move :
    ¬ ∀ (s : System) (notes : List Note) (m : Move) (steps : List Step)
      (entityId recordId : String), Reachable Step.Local s notes →
      (Step.move m steps).Throughout Step.Keeping →
      ((Step.move m steps).run s).1.failure?.isSome = true →
      ((Step.move m steps).run s).2.database.auditLog entityId recordId =
        s.database.auditLog entityId recordId := by
  intro hclaim
  have hreachable : Reachable Step.Local (runAll {} Paper.setUp).2 _ :=
    .of_run ⟨trivial, trivial, trivial, trivial, trivial, trivial⟩
  have hfailed : (Paper.signedMeanwhile.run (runAll {} Paper.setUp).2).1.failure?.isSome = true :=
    by decide +kernel
  have hsteps : Paper.signedMeanwhile.Throughout Step.Keeping :=
    ⟨trivial, ⟨trivial, trivial⟩, trivial⟩
  have hbefore : ((runAll {} Paper.setUp).2.database.auditLog "paper" "draft").toOption.any
      List.isEmpty = true := by decide +kernel
  have hafter : ((Paper.signedMeanwhile.run (runAll {} Paper.setUp).2).2.database.auditLog "paper"
      "draft").toOption.any List.isEmpty = false := by decide +kernel
  generalize (runAll {} Paper.setUp).2 = s at *
  have hsame : (Paper.signedMeanwhile.run s).2.database.auditLog "paper" "draft" =
      s.database.auditLog "paper" "draft" :=
    hclaim s _ _ _ "paper" "draft" hreachable hsteps hfailed
  rw [hsame, hbefore] at hafter
  cases hafter

end RecordRules
