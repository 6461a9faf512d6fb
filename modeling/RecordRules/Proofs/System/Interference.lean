import RecordRules.Proofs.System.Exactness

/-!
# No lost updates

While the roles of an actor are about to be looked up, other steps can run, and they can write to
the very record that is being moved.  Then the move fails: either the other steps have been in vain,
because the move holds the write lock, or the move finds its record in another version, even if it
is back in the state in which it was loaded.

* `Note.Commits` says that a save of a record has been noted for good.
* `History.overtaken`: a history that saves a record leaves it in a later version.
* `finish_stale`: a move whose record has been overtaken fails and leaves what it finds; and
  `finish_late` that it has been overtaken if other steps have saved its record meanwhile.
* `Reachable.no_lost_update` is the theorem.
-/

set_option autoImplicit false

namespace RecordRules

open Workflow

/-! ## Records that others save -/

/-- A new state of a record has been saved for good, by a script or by a move. -/
def Note.Commits (recordId : String) : Note → Prop
  | .created .. => False
  | .saved .. => False
  | .committed recordIds => recordId ∈ recordIds
  | .moved m failure => m.recordId = recordId ∧ failure = none

/-- A change gives a record a new state. -/
def Change.Saves (recordId : String) : Change → Prop
  | .move m .. => m.recordId = recordId
  | .commit writes => recordId ∈ writes.filterMap Write.savedId?
  | _ => False

/-- What was in vain has not saved anything. -/
theorem Note.Refused.not_commits {limits : Expression.Limits} {tables : Option Tables}
    {recordId : String} {n : Note} (h : n.Refused limits tables) : ¬ n.Commits recordId := by
  intro hcommits
  cases n with
  | created _ _ => exact h
  | saved _ _ => exact hcommits
  | committed _ => exact h
  | moved m failure =>
    obtain ⟨e, rfl, -⟩ := h
    cases hcommits.2

theorem Note.Commits.lasting {recordId : String} {n : Note} (h : n.Commits recordId) :
    n.lasting = true := by
  cases n with
  | created _ _ => rfl
  | saved _ _ => exact h.elim
  | committed _ => rfl
  | moved m failure =>
    rw [h.2]
    rfl

/-- What has been noted of a save is a change that saves. -/
theorem Change.saves_of_note? {recordId : String} {c : Change} {n : Note}
    (hn : c.note? = some n) (h : n.Commits recordId) : c.Saves recordId := by
  cases c with
  | insert i =>
    cases i with
    | record r =>
      cases hn
      exact h.elim
    | _ => cases hn
  | move m q r savedAt performedAt =>
    cases hn
    exact h.1
  | commit writes =>
    rw [Change.note?] at hn
    rw [Change.Saves]
    cases hsaved : writes.filterMap Write.savedId? with
    | nil =>
      rw [hsaved] at hn
      cases hn
    | cons id ids =>
      rw [hsaved] at hn
      cases hn
      exact h
  | _ => cases hn

section Overtaken

variable {limits : Expression.Limits} {t : Tables} {o : Option Tables} {c : Change}
  {cs : List Change}

theorem Change.Makes.overtaken (h : c.Makes limits (some t) o) (hk : t.Keyed) {r : Record}
    (hr : r ∈ t.records) (hc : c.Saves r.id) : ∃ u, o = some u ∧ u.Overtaken r := by
  cases h with
  | @move _ m q x savedAt performedAt hallowed =>
    have hx : x = r := List.inj_on_of_nodup_map hk.records hallowed.located.record hr
      (hallowed.located.recordId.trans hc)
    subst hx
    exact ⟨_, rfl, Tables.overtaken_moved hr _ _⟩
  | commit hwritten => exact ⟨_, rfl, hwritten.overtaken hr hc⟩
  | insert _ => exact hc.elim
  | drop => exact hc.elim

/-- **A history that saves a record leaves it in a later version**, whatever state it ends in. -/
theorem History.overtaken (h : History limits (some t) cs o) (hk : t.Keyed) (hdrop : .drop ∉ cs)
    {r : Record} (hr : r ∈ t.records) (hc : c ∈ cs) (hsaves : c.Saves r.id) :
    ∃ u, o = some u ∧ u.Overtaken r := by
  generalize ho : some t = o₀ at h
  induction h generalizing t r with
  | nil _ => cases hc
  | @cons _ _ _ d rest hd hrest ih =>
    subst ho
    rw [List.mem_cons, not_or] at hdrop
    obtain ⟨u, rfl, htu⟩ := hd.grows hk (Ne.symm hdrop.1)
    have hku : u.Keyed := hd.keyed (fun _ ht => by cases ht; exact hk) u rfl
    rcases List.mem_cons.1 hc with rfl | hc
    · obtain ⟨u', hu', hovertaken⟩ := hd.overtaken hk hr hsaves
      cases hu'
      obtain ⟨v, rfl, huv⟩ := hrest.grows hku hdrop.2
      exact ⟨v, rfl, hovertaken.mono huv⟩
    · obtain ⟨x, hx, hrx⟩ := htu.records r hr
      obtain ⟨v, rfl, y, hy, hxy, hlt⟩ := ih hku hdrop.2 hx hc (hrx.id.symm ▸ hsaves) rfl
      exact ⟨v, rfl, y, hy, hrx.trans hxy, Int.lt_of_le_of_lt hrx.version hlt⟩

end Overtaken

/-- Notes of a save tell that its record is in a later version now. -/
theorem Advances.overtaken {p : Step → Prop} {s s' : System} {notes : List Note} {t : Tables}
    (h : Advances p s notes s') (hp : Plain p) (ht : s.database.tables = some t) (hk : t.Keyed)
    {r : Record} (hr : r ∈ t.records) {n : Note} (hn : n ∈ notes) (hcommits : n.Commits r.id) :
    ∃ u, s'.database.tables = some u ∧ u.Overtaken r := by
  obtain ⟨changes, hhistory, hwithin, htold⟩ := h.history
  have hmem : n ∈ changes.filterMap Change.note? := by
    rw [← htold hp]
    exact List.mem_filter.2 ⟨hn, hcommits.lasting⟩
  obtain ⟨c, hc, hcn⟩ := List.mem_filterMap.1 hmem
  rw [ht] at hhistory
  exact hhistory.overtaken hk (fun hdrop => hp.1 (hwithin _ hdrop)) hr hc
    (Change.saves_of_note? hcn hcommits)

/-! ## The move that comes too late -/

/-- A move that holds no lock and whose record has been overtaken fails: with a conflict, unless one
of its gates has been shut before that is found.  It leaves what it finds. -/
theorem finish_stale {v : System} {t u : Tables} {m : Move} {q : Plan} {r : Record}
    {openedAt : Moment} (hu : v.database.tables = some u) (hk : u.Keyed)
    (hfree : v.database.locked = false)
    (hset : (Record.currentState r.state q.workflow).defaulted = false)
    (hovertaken : u.Overtaken r) :
    ∃ e, (finish v m (opened t m q r openedAt)).1 = .error e ∧
      (cleared v m (opened t m q r openedAt) = .ok () → e.IsOf .conflict) ∧
      (finish v m (opened t m q r openedAt)).2.database = v.database := by
  obtain ⟨hrecord, hpending⟩ := opened_of_set t m openedAt hset
  have hloaded := opened_loaded t m q r openedAt
  rw [hrecord] at hloaded
  have hview : (opened t m q r openedAt).tx.view v.database = some u := by
    rw [Transaction.view, hpending]
    exact hu
  have hstale := Transaction.saveState_stale hloaded hview (fun _ => hfree)
    (fun x hx hid => hovertaken.version_ne hk hx hid)
    (opened t m q r openedAt).plan.transition.toState m.actor v.now
  have hcomplete : complete v.database v.now m (opened t m q r openedAt) (.ofClock v.clock) =
      .error ((opened t m q r openedAt).tx.failure .stale) := by
    rw [complete, hstale, mapError_error, error_bind]
  rcases finish_cases v m (opened t m q r openedAt) with ⟨e, he, -, hdatabase⟩ | ⟨_, _, -, hdone, -⟩
  · refine ⟨e, he, fun hcleared => ?_, ?_⟩
    · cases he.symm.trans (finish_eq_of_error hcleared hcomplete)
      exact ⟨_, rfl, Fault.of_kind _ _ _⟩
    · rw [hdatabase, Transaction.rollback_of_none hpending]
  · rw [hcomplete] at hdone
    cases hdone

/-! ## Runs -/

/-- Any step that leaves the tables in place: neither one that drops them nor the sample, the parts
of which are not told apart in replies. -/
def Step.Ordinary : Step → Prop
  | .operation .dropTables => False
  | .operation .loadSample => False
  | .request _ => False
  | _ => True

theorem not_request_of_ordinary (r : Request) : ¬ Step.Ordinary (.request r) := fun h => h

/-- A move that holds no lock comes too late if other steps have saved its record meanwhile. -/
theorem finish_late {s : System} {t : Tables} (hkeyed : s.database.Keyed)
    (ht : s.database.tables = some t) {m : Move} {q : Plan} {r : Record} {openedAt : Moment}
    (hloc : Located t m q r)
    (hset : (Record.currentState r.state q.workflow).defaulted = false) {steps : List Step}
    (hsteps : Step.AllThroughout Step.Ordinary steps)
    (hcommitted : ∃ n ∈ notesAll steps (runAll s steps).1, n.Commits m.recordId) :
    ∃ e, (finish (runAll s steps).2 m (opened t m q r openedAt)).1 = .error e ∧
      (cleared (runAll s steps).2 m (opened t m q r openedAt) = .ok () → e.IsOf .conflict) ∧
      (finish (runAll s steps).2 m (opened t m q r openedAt)).2.database =
        (runAll s steps).2.database := by
  obtain ⟨n, hn, hcommits⟩ := hcommitted
  cases hl : s.database.locked with
  | true =>
    have hblocked := runAll_locked not_request_of_ordinary steps hsteps s hl hkeyed
    exact ((hblocked.refused n hn).not_commits hcommits).elim
  | false =>
    obtain ⟨hadvances, hfree⟩ :=
      runAll_advances not_request_of_ordinary steps hsteps s hkeyed hl
    rw [← hloc.recordId] at hcommits
    obtain ⟨v, hv, hovertaken⟩ :=
      hadvances.overtaken ⟨id, id⟩ ht (hkeyed t ht) hloc.record hn hcommits
    exact finish_stale hv (hadvances.keyed hkeyed v hv) hfree hset hovertaken

/-- **No lost updates.**  In every reachable system, whatever runs while the roles of the actor of a
move are about to be looked up, nested to any depth:

* the move and a save of its record by those steps are never both committed;
* if those steps have committed a save of its record, the move fails, with a conflict if its gates
  are open, and the database is the one that they have left;
* if the move has put its record into the initial state, all their writes have been in vain. -/
theorem Reachable.no_lost_update {s u : System} {notes : List Note}
    (h : Reachable Step.Local s notes) {m : Move} {o : Opened}
    (hreached : reached? s m = some (o, u)) (hrestricted : o.plan.transition.isRestricted = true)
    {steps : List Step} (hsteps : Step.AllThroughout Step.Ordinary steps) :
    (¬ ((∃ result, (execute s m fun v => runAll v steps).1 = .ok result) ∧
        ∃ n ∈ notesAll steps (runAll u steps).1, n.Commits m.recordId)) ∧
      ((∃ n ∈ notesAll steps (runAll u steps).1, n.Commits m.recordId) →
        ∃ e, (execute s m fun v => runAll v steps).1 = .error e ∧
          (cleared (runAll u steps).2 m o = .ok () → e.IsOf .conflict) ∧
          (execute s m fun v => runAll v steps).2.2.database = (runAll u steps).2.database) ∧
      (o.current.defaulted = true →
        (runAll u steps).2.database = u.database ∧ u.database.tables = s.database.tables ∧
          ∀ n ∈ notesAll steps (runAll u steps).1, n.Refused s.limits s.database.tables) := by
  have hkeyed := h.keyed fun _ hrequest => hrequest
  obtain ⟨t, q, r, ht, hloc, -, -, rfl, rfl⟩ := reached?_cases hkeyed hreached
  rw [execute_of_some hreached, interlude_snd, if_pos hrestricted, opened_current]
  cases hdefaulted : (Record.currentState r.state q.workflow).defaulted with
  | true =>
    -- the move has written, and nobody else can
    have hblocked := runAll_locked not_request_of_ordinary steps hsteps
      (s.withDatabase (held s.database (opened t m q r s.now)))
      (by rw [held_of_unset hdefaulted]; rfl)
      (fun t' ht' => hkeyed t' (by rw [← held_tables s.database (opened t m q r s.now)]; exact ht'))
    have hrefused := hblocked.refused
    refine ⟨?_, ?_, fun _ => ⟨hblocked.database, held_tables _ _, ?_⟩⟩
    · rintro ⟨-, n, hn, hcommits⟩
      exact (hrefused n hn).not_commits hcommits
    · rintro ⟨n, hn, hcommits⟩
      exact ((hrefused n hn).not_commits hcommits).elim
    · rwa [show (s.withDatabase (held s.database (opened t m q r s.now))).database.tables =
        s.database.tables from held_tables _ _] at hrefused
  | false =>
    rw [held_of_set hdefaulted, System.withDatabase_self]
    -- others can, and then the version of the record tells
    refine ⟨?_, finish_late hkeyed ht hloc hdefaulted hsteps,
      fun htrue => absurd htrue Bool.false_ne_true⟩
    rintro ⟨⟨result, hresult⟩, hcommitted⟩
    obtain ⟨e, he, -⟩ := finish_late hkeyed ht hloc hdefaulted hsteps hcommitted
    rw [hresult] at he
    cases he

/-- While Ann signs a draft, a script signs it and takes the signature back. -/
def Paper.takenBack : List Step :=
  [.transaction [.load "paper" "draft", .saveState "draft" "SIGNED" none,
    .saveState "draft" "DRAFT" none]]

/-- The draft is back in the state in which Ann has found it, and still she is too late. -/
theorem no_lost_update_signing :
    ∃ o u e, reached? (runAll {} Paper.setUp).2 (Paper.signing "draft" (some "ann")) = some (o, u) ∧
      (execute (runAll {} Paper.setUp).2 (Paper.signing "draft" (some "ann"))
        fun v => runAll v Paper.takenBack).1 = .error e ∧ e.IsOf .conflict ∧
      (execute (runAll {} Paper.setUp).2 (Paper.signing "draft" (some "ann"))
        fun v => runAll v Paper.takenBack).2.2.database =
          (runAll u Paper.takenBack).2.database := by
  have hreachable : Reachable Step.Local (runAll {} Paper.setUp).2 _ :=
    .of_run ⟨trivial, trivial, trivial, trivial, trivial, trivial⟩
  have hsteps : Step.AllThroughout Step.Ordinary Paper.takenBack :=
    ⟨⟨trivial, trivial, trivial, trivial, trivial⟩, trivial⟩
  have hreached : ((reached? (runAll {} Paper.setUp).2 (Paper.signing "draft" (some "ann"))).any
      fun x => x.1.plan.transition.isRestricted &&
        (cleared (runAll x.2 Paper.takenBack).2 (Paper.signing "draft" (some "ann")) x.1).isOk &&
        (notesAll Paper.takenBack (runAll x.2 Paper.takenBack).1).any fun
          | .committed recordIds => recordIds.contains "draft"
          | _ => false) = true := by decide +kernel
  obtain ⟨⟨o, u⟩, hreached, hx⟩ := (Option.any_eq_true _ _).1 hreached
  rw [Bool.and_eq_true, Bool.and_eq_true, List.any_eq_true] at hx
  obtain ⟨⟨hrestricted, hcleared⟩, n, hn, hcommitted⟩ := hx
  obtain ⟨⟨⟩, hcleared⟩ := isOk_iff.1 hcleared
  have hcommits : n.Commits "draft" := by
    cases n with
    | committed recordIds => exact List.contains_iff_mem.1 hcommitted
    | _ => cases hcommitted
  obtain ⟨-, hlate, -⟩ := hreachable.no_lost_update hreached hrestricted hsteps
  obtain ⟨e, he, hconflict, hdatabase⟩ := hlate ⟨n, hn, hcommits⟩
  exact ⟨o, u, e, hreached, he, hconflict hcleared, hdatabase⟩

end RecordRules
