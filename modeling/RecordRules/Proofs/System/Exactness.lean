import RecordRules.Proofs.System.Runs

/-!
# Moves are exact and atomic

A move that nobody interferes with succeeds exactly if it is `Allowed` and its audit entry can be
written; then it changes its record, adds the entry, and does nothing else.  If it fails it leaves
no trace, however far it got.

* `finish_exact` is the end of such a move.
* `Reachable.execute_exact` is the theorem, in every system that runs of the library lead to.
-/

set_option autoImplicit false

namespace RecordRules

open Workflow

/-- Any step that is not a request to the service, which can bring a database of its own. -/
def Step.Local : Step → Prop
  | .request _ => False
  | _ => True

namespace Tables

/-- A move of a record, row by row. -/
theorem Keyed.moved_eq {t : Tables} (h : t.Keyed) {m : Move} {p : Plan} {r : Record}
    (hr : r ∈ t.records) (savedAt performedAt : Moment) :
    t.moved m p r savedAt performedAt =
      { t with
        records := t.records.map fun x => if x.id = r.id then movedRecord m p r savedAt else x
        audit := t.audit ++
          [movedEntry m p r (freshId (t.audit.filterMap AuditEntry.id)) performedAt] } := by
  rw [Tables.moved, Tables.addEntry, Tables.put]
  congr 1
  refine List.map_congr_left fun x hx => ?_
  by_cases hid : x.id = r.id
  · rw [List.inj_on_of_nodup_map h.records hx hr hid, if_pos rfl]
    exact if_pos (beq_self_eq_true r.id)
  · rw [if_neg hid]
    exact if_neg (by rw [beq_iff_eq]; exact hid)

end Tables

section Exact

variable {s v : System} {t : Tables} {m : Move} {p : Plan} {r : Record} {openedAt : Moment}

/-- The end of a move while nobody has interfered: it succeeds exactly if the gates are open and its
audit entry can be written, and if it fails it takes back what it has written. -/
theorem finish_exact (ht : s.database.tables = some t) (hk : t.Keyed)
    (hfree : s.database.locked = false) (hloc : Located t m p r)
    (hv : v.database = held s.database (opened t m p r openedAt)) :
    ((∃ result, (finish v m (opened t m p r openedAt)).1 = .ok result) ↔
        Authorized t m.actor p.transition ∧
          Met v.limits t p.entity r.data p.transition m.actor ∧ Writable m p r) ∧
      (∀ result, (finish v m (opened t m p r openedAt)).1 = .ok result →
        result = report m (opened t m p r openedAt) (.ofClock v.clock) ∧
          (finish v m (opened t m p r openedAt)).2.database =
            { tables := some (t.moved m p r v.now (.ofClock v.clock)), locked := false }) ∧
      ∀ e, (finish v m (opened t m p r openedAt)).1 = .error e →
        (finish v m (opened t m p r openedAt)).2.database = s.database := by
  have htv : v.database.tables = some t := by rw [hv, held_tables, ht]
  have hset : Record.unset r.state = false → v.database.locked = false := by
    intro h
    rw [hv, held, opened_current, Record.currentState_defaulted, h]
    exact hfree
  have hdone : ∀ result after, finish v m (opened t m p r openedAt) = (.ok result, after) ↔ _ :=
    fun result after => finish_eq_ok_iff htv hk hloc (.refl t) (fun _ => rfl) hset
  refine ⟨⟨?_, ?_⟩, ?_, ?_⟩
  · rintro ⟨result, h⟩
    obtain ⟨-, hauthorized, hmet, hwritable, -⟩ := (hdone result _).1 (Prod.ext h rfl)
    exact ⟨hauthorized, hmet, hwritable⟩
  · rintro ⟨hauthorized, hmet, hwritable⟩
    exact ⟨_, congrArg Prod.fst
      ((hdone _ _).2 ⟨hloc.record, hauthorized, hmet, hwritable, rfl, rfl⟩)⟩
  · intro result h
    obtain ⟨-, -, -, -, hresult, hafter⟩ := (hdone result _).1 (Prod.ext h rfl)
    exact ⟨hresult, congrArg System.database hafter⟩
  · intro e h
    rcases finish_cases v m (opened t m p r openedAt) with ⟨_, -, -, hdatabase⟩ | ⟨_, _, -, -, hok⟩
    · rw [hdatabase, hv]
      cases hdefaulted : (Record.currentState r.state p.workflow).defaulted with
      | false =>
        rw [Transaction.rollback_of_none (opened_of_set _ _ _ hdefaulted).2, held, opened_current,
          hdefaulted]
        rfl
      | true =>
        rw [Transaction.rollback_of_pending (opened_of_unset _ _ _ hdefaulted).2, held,
          opened_current, if_pos hdefaulted, ← hfree]
    · rw [hok] at h
      cases h

/-- What runs meanwhile does not interfere: it may read, but neither writes nor changes the limits
of expressions. -/
structure Quiet {β : Type} (run : System → β × System) : Prop where
  database : ∀ u, (run u).2.database = u.database
  limits : ∀ u, (run u).2.limits = u.limits

namespace Quiet

variable {β : Type} {run : System → β × System}

/-- A move that nobody interferes with comes to its end in the database that its beginning has
left. -/
theorem interlude_database (h : Quiet run) (u : System) (x : Transition) :
    (interlude u x run).2.database = u.database := by
  rw [interlude_snd]
  split
  · exact h.database u
  · rfl

theorem interlude_limits (h : Quiet run) (u : System) (x : Transition) :
    (interlude u x run).2.limits = u.limits := by
  rw [interlude_snd]
  split
  · exact h.limits u
  · rfl

end Quiet

/-- **A move is exact and atomic.**  In every reachable system in which nobody is writing, a move
that nobody interferes with succeeds exactly if it is allowed and the texts of its audit entry have
whole characters only.  If it succeeds, its record has a new state, a new last writer, the moment of
the save and a new version, there is one more audit entry, and nothing else has changed.  If it
fails, nothing has changed at all. -/
theorem Reachable.execute_exact {β : Type} {notes : List Note}
    (h : Reachable Step.Local s notes) (hfree : s.database.locked = false) (m : Move)
    {run : System → β × System} (hquiet : Quiet run) :
    ((∃ result, (execute s m run).1 = .ok result) ↔
        ∃ t p r, s.database.tables = some t ∧ Allowed s.limits t m p r ∧ Writable m p r) ∧
      (∀ result, (execute s m run).1 = .ok result →
        ∃ t p r performedAt, s.database.tables = some t ∧ Allowed s.limits t m p r ∧
          Writable m p r ∧ result = report m (opened t m p r s.now) performedAt ∧
          (execute s m run).2.2.database =
            { s.database with
              tables := some
                { t with
                  records := t.records.map fun x =>
                    if x.id = r.id then movedRecord m p r (execute s m run).2.2.now else x
                  audit := t.audit ++ [movedEntry m p r
                    (freshId (t.audit.filterMap AuditEntry.id)) performedAt] } }) ∧
      ∀ e, (execute s m run).1 = .error e → (execute s m run).2.2.database = s.database := by
  have hkeyed := h.keyed fun _ hrequest => hrequest
  cases hreached : reached? s m with
  | none =>
    obtain ⟨e, he⟩ := execute_of_none hreached run
    rw [he]
    refine ⟨⟨nofun, ?_⟩, nofun, fun _ _ => rfl⟩
    rintro ⟨t, p, r, ht, hallowed, -⟩
    have hsome := (reached?_eq_some_iff ht (hkeyed t ht)).2
      ⟨p, r, hallowed.located, hallowed.source, fun _ => hfree, rfl, rfl⟩
    rw [hreached] at hsome
    cases hsome
  | some reached =>
    obtain ⟨o, u⟩ := reached
    obtain ⟨t, p, r, ht, hloc, hsource, -, rfl, rfl⟩ := reached?_cases hkeyed hreached
    have hk := hkeyed t ht
    have hdatabase := hquiet.interlude_database
      (s.withDatabase (held s.database (opened t m p r s.now)))
      (opened t m p r s.now).plan.transition
    have hlimits := hquiet.interlude_limits
      (s.withDatabase (held s.database (opened t m p r s.now)))
      (opened t m p r s.now).plan.transition
    rw [execute_of_some hreached]
    obtain ⟨hiff, hok, herror⟩ := finish_exact ht hk hfree hloc hdatabase
    rw [hlimits] at hiff
    refine ⟨hiff.trans ⟨?_, ?_⟩, fun result hresult => ?_, herror⟩
    · rintro ⟨hauthorized, hmet, hwritable⟩
      exact ⟨t, p, r, ht, ⟨hloc, hsource, hauthorized, hmet⟩, hwritable⟩
    · rintro ⟨t', q, x, ht', hallowed, hwritable⟩
      have htt : t = t' := Option.some.inj (ht.symm.trans ht')
      subst htt
      obtain ⟨rfl, rfl⟩ := hloc.unique hk hallowed.located
      exact ⟨hallowed.authorized, hallowed.met, hwritable⟩
    · obtain ⟨hreport, hafter⟩ := hok result hresult
      obtain ⟨hauthorized, hmet, hwritable⟩ := hiff.1 ⟨result, hresult⟩
      refine ⟨t, p, r, _, ht, ⟨hloc, hsource, hauthorized, hmet⟩, hwritable, hreport, ?_⟩
      rw [hafter, hk.moved_eq hloc.record, finish_now, ← hfree]

end Exact

/-- A clerk can sign a draft, so there is a move that is allowed. -/
theorem execute_exact_signing :
    (∃ result, (execute (runAll {} Paper.setUp).2 (Paper.signing "draft" (some "ann"))
      fun u => ((), u)).1 = .ok result) ∧
    ∃ t p r, (runAll {} Paper.setUp).2.database.tables = some t ∧
      Allowed (runAll {} Paper.setUp).2.limits t (Paper.signing "draft" (some "ann")) p r ∧
      Writable (Paper.signing "draft" (some "ann")) p r := by
  have hreachable : Reachable Step.Local (runAll {} Paper.setUp).2 _ :=
    .of_run ⟨trivial, trivial, trivial, trivial, trivial, trivial⟩
  have hfree : (runAll {} Paper.setUp).2.database.locked = false := by decide +kernel
  have hquiet : Quiet fun u : System => ((), u) := ⟨fun _ => rfl, fun _ => rfl⟩
  have hexact := hreachable.execute_exact hfree (Paper.signing "draft" (some "ann")) hquiet
  have hok : (execute (runAll {} Paper.setUp).2 (Paper.signing "draft" (some "ann"))
      fun u => ((), u)).1.isOk = true := by decide +kernel
  have hresult := isOk_iff.1 hok
  exact ⟨hresult, hexact.1.1 hresult⟩

/-! ## Actors without a name, and the moment of the save -/

/-- A role has been assigned to an actor, whatever its name. -/
def Tables.Assigned (t : Tables) (actor : Option String) (roles : List String) : Prop :=
  ∃ name, actor = some name ∧ ∃ role ∈ roles, (name, role) ∈ t.roles

/-- Somebody without a name has been made a clerk, and cannot sign a draft that is ready. -/
theorem Paper.unnamed_clerk :
    ∃ s notes, Reachable Step.Local s notes ∧ s.database.locked = false ∧
      s.database.tables.map Tables.roles = some [("ann", "clerk"), ("", "clerk")] ∧
      (execute s (Paper.signing "draft" (some "")) fun u => ((), u)).1.isOk = false ∧
      ((reached? s (Paper.signing "draft" (some ""))).any fun x =>
        x.1.plan.transition.allowedRoles == some ["clerk"] &&
          (checkRules x.2.database x.2.limits (Paper.signing "draft" (some "")) x.1).isOk) =
        true :=
  ⟨(runAll {} Paper.setUpUnnamed).2, _,
    .of_run ⟨trivial, trivial, trivial, trivial, trivial, trivial, trivial⟩,
    by decide +kernel, by decide +kernel, by decide +kernel, by decide +kernel⟩

/-- The papers are set up, and some time passes. -/
def Paper.setUpEarlier : List Step := setUp ++ [.wait { day := ⟨2024, 1, 2⟩ }]

/-- A draft that is signed some time after it was set up carries another moment than any paper
before. -/
theorem Paper.stamped_late :
    ∃ s notes t t', Reachable Step.Local s notes ∧ s.database.locked = false ∧
      s.database.tables = some t ∧
      (execute s (Paper.signing "draft" (some "ann")) fun u => ((), u)).1.isOk = true ∧
      (execute s (Paper.signing "draft" (some "ann")) fun u => ((), u)).2.2.database.tables =
        some t' ∧
      ∃ r' ∈ t'.records, ∀ r ∈ t.records, r'.updatedAt ≠ r.updatedAt := by
  have hreachable : Reachable Step.Local (runAll {} Paper.setUpEarlier).2 _ :=
    .of_run ⟨trivial, trivial, trivial, trivial, trivial, trivial, trivial⟩
  have hstamps : ((runAll {} Paper.setUpEarlier).2.database.tables.bind fun t =>
      (execute (runAll {} Paper.setUpEarlier).2 (Paper.signing "draft" (some "ann"))
        fun u => ((), u)).2.2.database.tables.map fun t' =>
          decide (∃ r' ∈ t'.records, ∀ r ∈ t.records, r'.updatedAt ≠ r.updatedAt)) =
      some true := by decide +kernel
  obtain ⟨t, ht, hstamps⟩ := Option.bind_eq_some_iff.1 hstamps
  obtain ⟨t', ht', hstamps⟩ := Option.map_eq_some_iff.1 hstamps
  exact ⟨_, _, t, t', hreachable, by decide +kernel, ht, by decide +kernel, ht',
    of_decide_eq_true hstamps⟩

/-- A role does not help an actor whose name is empty: `Tables.Assigned` in the place of
`Tables.Holds` does not decide which moves succeed.  And a move that succeeds writes the moment of
the save, too, not only the state, the actor and the version. -/
theorem execute_inexact :
    (¬ ∀ (s : System) (notes : List Note) (m : Move), Reachable Step.Local s notes →
      s.database.locked = false →
      ((∃ result, (execute s m fun u => ((), u)).1 = .ok result) ↔
        ∃ t p r, s.database.tables = some t ∧ Located t m p r ∧
          p.transition.fromState = (Record.currentState r.state p.workflow).state ∧
          (p.transition.allowedRoles.getD [] = [] ∨
            t.Assigned m.actor (p.transition.allowedRoles.getD [])) ∧
          Met s.limits t p.entity r.data p.transition m.actor)) ∧
    ¬ ∀ (s : System) (notes : List Note) (m : Move) (result : TransitionResult) (t t' : Tables),
      Reachable Step.Local s notes → s.database.locked = false → s.database.tables = some t →
      (execute s m fun u => ((), u)).1 = .ok result →
      (execute s m fun u => ((), u)).2.2.database.tables = some t' →
      ∀ r' ∈ t'.records, ∃ r ∈ t.records, r'.updatedAt = r.updatedAt := by
  constructor
  · intro hclaim
    obtain ⟨s, notes, hreachable, hfree, hroles, hfails, hgates⟩ := Paper.unnamed_clerk
    obtain ⟨⟨o, u⟩, hreached, hgates⟩ := (Option.any_eq_true _ _).1 hgates
    rw [Bool.and_eq_true, beq_iff_eq] at hgates
    obtain ⟨hallowed, hrules⟩ := hgates
    have hkeyed := hreachable.keyed fun _ hrequest => hrequest
    obtain ⟨t, p, r, ht, hloc, hsource, -, rfl, rfl⟩ := reached?_cases hkeyed hreached
    rw [ht] at hroles
    rw [opened_plan] at hallowed
    obtain ⟨_, hrules⟩ := isOk_iff.1 hrules
    have hmet := (checkRules_eq_ok_iff ((held_tables _ _).trans ht) (hkeyed t ht)
      (by rw [opened_plan]; exact hloc.entity)).1 hrules
    rw [opened_plan, opened_data] at hmet
    have hassigned : t.Assigned (some "") (p.transition.allowedRoles.getD []) := by
      refine ⟨"", rfl, "clerk", by rw [hallowed]; exact List.mem_singleton.2 rfl, ?_⟩
      rw [Option.some.inj hroles]
      exact List.mem_cons_of_mem _ (List.mem_singleton.2 rfl)
    have hsucceeds := (hclaim s notes _ hreachable hfree).2
      ⟨t, p, r, ht, hloc, hsource, Or.inr hassigned, hmet⟩
    rw [isOk_iff.2 hsucceeds] at hfails
    cases hfails
  · intro hclaim
    obtain ⟨s, notes, t, t', hreachable, hfree, ht, hok, ht', r', hr', hstamped⟩ :=
      Paper.stamped_late
    obtain ⟨result, hresult⟩ := isOk_iff.1 hok
    obtain ⟨r, hr, hkept⟩ := hclaim s notes _ result t t' hreachable hfree ht hresult ht' r' hr'
    exact hstamped r hr hkept

end RecordRules
