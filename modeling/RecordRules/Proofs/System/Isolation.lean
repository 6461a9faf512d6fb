import RecordRules.Proofs.System.Runs

/-!
# Scripts among the steps of others

A script runs while others take their own steps, and until its end they see a database without it.

* `System.without` is the system that the steps of others alone lead to, up to the first write of
  the script, which takes the write lock; behind it they change nothing.
* `Scripted.PassesAll.apart` says that this is what others see.
* `Scripted.PassesAll.commit_eq` and `rollback_eq` say what is there when the script is over.
-/

set_option autoImplicit false

namespace RecordRules

/-! ## The steps of others -/

/-- The steps of others up to the first write of a script. -/
def Action.unhindered : List Action → List Step
  | .load .. :: rest => unhindered rest
  | .outside steps :: rest => steps ++ unhindered rest
  | _ => []

/-- The system that the steps of others in a script lead to without the script itself. -/
def System.without (s : System) (script : List Action) : System :=
  (runAll s (Action.unhindered script)).2

theorem runAll_append (s : System) (steps more : List Step) :
    (runAll s (steps ++ more)).2 = (runAll (runAll s steps).2 more).2 := by
  induction steps generalizing s with
  | nil => rfl
  | cons step rest ih =>
    rw [List.cons_append, runAll, runAll]
    exact ih _

theorem Step.AllThroughout.append {p : Step → Prop} {steps more : List Step}
    (h : Step.AllThroughout p steps) (hmore : Step.AllThroughout p more) :
    Step.AllThroughout p (steps ++ more) := by
  induction steps with
  | nil => exact hmore
  | cons step rest ih => exact ⟨h.1, ih h.2⟩

theorem Action.throughout_unhindered {p : Step → Prop} :
    ∀ (script : List Action), Action.AllThroughout p script →
      Step.AllThroughout p (Action.unhindered script)
  | [], _ => trivial
  | .load .. :: rest, h => throughout_unhindered rest h.2
  | .outside _ :: rest, h => h.1.append (throughout_unhindered rest h.2)
  | .saveState .. :: _, _ => trivial
  | .appendAudit _ :: _, _ => trivial
  | .fail _ :: _, _ => trivial

section Runs

variable {p : Step → Prop} (hp : ∀ r, ¬ p (.request r))
include hp

theorem runAll_keyed {steps : List Step} (hsteps : Step.AllThroughout p steps) {s : System}
    (hk : s.database.Keyed) : (runAll s steps).2.database.Keyed := by
  cases hl : s.database.locked with
  | true =>
    rw [(runAll_locked hp steps hsteps s hl hk).database]
    exact hk
  | false => exact (runAll_advances hp steps hsteps s hk hl).1.keyed hk

/-- The steps of others alone leave the lock as it is. -/
theorem System.without_locked {script : List Action} (hscript : Action.AllThroughout p script)
    {s : System} (hk : s.database.Keyed) :
    (s.without script).database.locked = s.database.locked := by
  have hsteps := Action.throughout_unhindered script hscript
  cases hl : s.database.locked with
  | true => rw [System.without, (runAll_locked hp _ hsteps s hl hk).database, hl]
  | false => exact (runAll_advances hp _ hsteps s hk hl).2

end Runs

/-! ## In the middle of a script -/

namespace Scripted

/-- The transaction has the lock if it has written, and keys are unique. -/
structure Sound (x : Scripted) (writes : List Write) : Prop extends x.Holds writes where
  keyed : x.system.database.Keyed
  locked : x.tx.pending.isSome = true → x.system.database.locked = true

variable {p : Step → Prop} {s : System} {x x₁ y : Scripted} {action : Action} {outcome : Outcome}
  {script : List Action} {outcomes : List Outcome} {writes : List Write}

theorem Sound.start (hk : s.database.Keyed) : Sound { system := s } [] :=
  ⟨.start s, hk, fun h => nomatch h⟩

section Runs

variable (hp : ∀ r, ¬ p (.request r))
include hp

/-- Once a script has written, the steps of others change nothing. -/
theorem Sound.outside_database (h : x.Sound writes) (hpending : x.tx.pending.isSome = true)
    {steps : List Step} (hsteps : Step.AllThroughout p steps) :
    (runAll x.system steps).2.database = x.system.database :=
  (runAll_locked hp steps hsteps x.system (h.locked hpending) h.keyed).database

theorem Passes.sound (hpass : x.Passes action outcome x₁) (haction : action.Throughout p)
    (h : x.Sound writes) : ∃ more, action.Puts x.system.now more ∧ x₁.Sound (writes ++ more) := by
  cases hpass with
  | load hload =>
    refine ⟨[], .load, ?_⟩
    rw [List.append_nil]
    refine ⟨h.toHolds.load hload, h.keyed, ?_⟩
    rw [Transaction.load_pending hload]
    exact h.locked
  | save hold hv _ hrow =>
    exact ⟨_, .save, h.toHolds.save h.keyed hold hv hrow _ _ _, h.keyed, fun _ => rfl⟩
  | entry _ hmetadata hv _ hid hnew =>
    subst hid
    exact ⟨_, .entry hmetadata, h.toHolds.entry hv hnew, h.keyed, fun _ => rfl⟩
  | @outside steps =>
    refine ⟨[], .outside, ?_⟩
    rw [List.append_nil]
    refine ⟨h.toHolds.outside fun hpending => h.outside_database hp hpending haction,
      runAll_keyed hp haction h.keyed, fun hpending => ?_⟩
    dsimp only at hpending ⊢
    rw [h.outside_database hp hpending haction]
    exact h.locked hpending

theorem PassesAll.sound (hpasses : x.PassesAll script outcomes y)
    (hscript : Action.AllThroughout p script) (h : x.Sound writes) :
    ∃ more, Action.PutsAll x script more ∧ y.Sound (writes ++ more) := by
  induction hpasses generalizing writes with
  | nil => exact ⟨[], .nil, by rwa [List.append_nil]⟩
  | cons hpass _ ih =>
    obtain ⟨more, hputs, h₁⟩ := hpass.sound hp hscript.1 h
    obtain ⟨others, hrest, hy⟩ := ih hscript.2 h₁
    rw [← hpass.run_snd] at hrest
    exact ⟨more ++ others, .cons hputs hrest, by rwa [List.append_assoc] at hy⟩

theorem Passes.database_of_pending (hpass : x.Passes action outcome x₁)
    (haction : action.Throughout p) (h : x.Sound writes) (hpending : x.tx.pending.isSome = true) :
    x₁.system.database = x.system.database ∧ x₁.tx.pending.isSome = true := by
  cases hpass with
  | load hload => exact ⟨rfl, by rw [Transaction.load_pending hload]; exact hpending⟩
  | save => exact ⟨by rw [← h.locked hpending]; rfl, rfl⟩
  | entry => exact ⟨by rw [← h.locked hpending]; rfl, rfl⟩
  | outside => exact ⟨h.outside_database hp hpending haction, hpending⟩

/-- Once a script has written, the database stays as it is until the script is over. -/
theorem PassesAll.database_of_pending (hpasses : x.PassesAll script outcomes y)
    (hscript : Action.AllThroughout p script) (h : x.Sound writes)
    (hpending : x.tx.pending.isSome = true) :
    y.system.database = x.system.database ∧ y.tx.pending.isSome = true := by
  induction hpasses generalizing writes with
  | nil => exact ⟨rfl, hpending⟩
  | cons hpass _ ih =>
    obtain ⟨more, -, h₁⟩ := hpass.sound hp hscript.1 h
    obtain ⟨hsame, hsome⟩ := hpass.database_of_pending hp hscript.1 h hpending
    obtain ⟨hdatabase, hlast⟩ := ih hscript.2 h₁ hsome
    exact ⟨hdatabase.trans hsame, hlast⟩

/-- **Others see the database without the script**, apart from its lock. -/
theorem PassesAll.apart (hpasses : x.PassesAll script outcomes y)
    (hscript : Action.AllThroughout p script) (h : x.Sound writes)
    (hpending : x.tx.pending = none) :
    y.system.database =
        { (x.system.without script).database with
          locked := (x.system.without script).database.locked || y.tx.writes } ∧
      (y.tx.writes = true → (x.system.without script).database.locked = false) := by
  induction hpasses generalizing writes with
  | nil x =>
    have hwrites : x.tx.writes = false := by rw [Transaction.writes, hpending]; rfl
    rw [hwrites, Bool.or_false]
    exact ⟨rfl, fun h => absurd h Bool.false_ne_true⟩
  | @cons x x₁ y action outcome rest outcomes hpass hrest ih =>
    obtain ⟨more, -, h₁⟩ := hpass.sound hp hscript.1 h
    -- a part that writes takes the lock, and all that follows is hindered
    have hlocks : ∀ {tx : Transaction},
        x₁ = { system := x.system.withDatabase { x.system.database with locked := true }, tx } →
        tx.pending.isSome = true → x.system.database.locked = false →
        y.system.database = { x.system.database with
            locked := x.system.database.locked || y.tx.writes } ∧
          (y.tx.writes = true → x.system.database.locked = false) := by
      intro tx hx₁ hsome hfree
      obtain ⟨hdatabase, hwrites⟩ :=
        hrest.database_of_pending hp hscript.2 h₁ (by rw [hx₁]; exact hsome)
      rw [hdatabase, Transaction.writes, hwrites, Bool.or_true, hx₁]
      exact ⟨rfl, fun _ => hfree⟩
    cases hpass with
    | load hload => exact ih hscript.2 h₁ (by rw [Transaction.load_pending hload]; exact hpending)
    | save _ _ hfree _ => exact hlocks rfl rfl (hfree hpending)
    | entry _ _ _ hfree _ _ => exact hlocks rfl rfl (hfree hpending)
    | @outside steps =>
      have hwithout : x.system.without (.outside steps :: rest) =
          (runAll x.system steps).2.without rest := runAll_append _ _ _
      rw [hwithout]
      exact ih hscript.2 h₁ hpending

/-- As long as the script has not written, it changes nothing about the lock. -/
theorem PassesAll.locked_of_none (hpasses : PassesAll { system := s } script outcomes y)
    (hscript : Action.AllThroughout p script) (hk : s.database.Keyed)
    (hpending : y.tx.pending = none) : y.system.database.locked = s.database.locked := by
  obtain ⟨hdatabase, -⟩ := hpasses.apart hp hscript (.start hk) rfl
  rw [hdatabase, Transaction.writes, hpending, Option.isSome_none, Bool.or_false]
  exact System.without_locked hp hscript hk

/-- While somebody else is writing, nothing changes. -/
theorem PassesAll.database_of_locked (hpasses : PassesAll { system := s } script outcomes y)
    (hscript : Action.AllThroughout p script) (hk : s.database.Keyed)
    (hl : s.database.locked = true) : y.system.database = s.database := by
  obtain ⟨hdatabase, hfree⟩ := hpasses.apart hp hscript (.start hk) rfl
  have hwithout : (s.without script).database = s.database :=
    (runAll_locked hp _ (Action.throughout_unhindered script hscript) s hl hk).database
  dsimp only at hdatabase
  rw [hdatabase, hwithout, hl, Bool.true_or, ← hl]

/-! ## The end of a script -/

/-- A script that fails leaves what the steps of others have led to. -/
theorem PassesAll.rollback_eq (hpasses : PassesAll { system := s } script outcomes y)
    (hscript : Action.AllThroughout p script) (hk : s.database.Keyed) :
    y.rollback.database = (s.without script).database := by
  obtain ⟨hdatabase, hfree⟩ := hpasses.apart hp hscript (.start hk) rfl
  dsimp only at hdatabase hfree
  rw [rollback, System.withDatabase, hdatabase]
  generalize (s.without script).database = db at hfree ⊢
  obtain ⟨tables, locked⟩ := db
  rw [Transaction.rollback]
  cases hwrites : y.tx.writes with
  | false => simp
  | true =>
    obtain rfl : locked = false := hfree hwrites
    rfl

/-- A script that comes to its end adds all of its writes to that. -/
theorem PassesAll.commit_eq (hpasses : PassesAll { system := s } script outcomes y)
    (hscript : Action.AllThroughout p script) (hk : s.database.Keyed) :
    ∃ entries, List.Forall₂ AuditEntry.KeptAs (script.filterMap Action.entry?) entries ∧
      y.commit.database = { (s.without script).database with
        tables := (s.without script).database.tables.map fun t =>
          t.rewritten (fun id => script.filterMap (Action.saveOf? id))
            (fun id => Scripted.lastSave? id { system := s } script) entries } ∧
      (∀ recordId ∈ script.filterMap Action.savedId?, ∃ t r,
        (s.without script).database.tables = some t ∧ r ∈ t.records ∧ r.id = recordId) ∧
      (entries ≠ [] → (s.without script).database.tables.isSome = true) := by
  obtain ⟨hdatabase, hfree⟩ := hpasses.apart hp hscript (.start hk) rfl
  obtain ⟨writes, hputs, hsound⟩ := hpasses.sound hp hscript (.start hk)
  rw [List.nil_append] at hsound
  dsimp only at hdatabase hfree
  refine ⟨_, hputs.entries, ?_⟩
  rw [← hputs.savedIds, ← funext hputs.saves, ← funext hputs.lastSave, commit, System.withDatabase]
  generalize (s.without script).database = db at hdatabase hfree ⊢
  obtain ⟨tables, locked⟩ := db
  cases hpending : y.tx.pending with
  | none =>
    have hwrites : y.tx.writes = false := by rw [Transaction.writes, hpending]; rfl
    rw [hsound.none hpending, Transaction.commit_of_none hpending, hdatabase, hwrites]
    simp [Tables.rewritten, Record.resaved]
  | some v =>
    obtain ⟨t, ht, hwritten⟩ := hsound.written v (by rw [Transaction.view, hpending])
    have hwrites : y.tx.writes = true := by rw [Transaction.writes, hpending]; rfl
    rw [hdatabase] at ht
    obtain rfl : tables = some t := ht
    obtain rfl : locked = false := hfree hwrites
    rw [Transaction.commit_of_pending hpending, hwritten.eq]
    refine ⟨rfl, fun recordId hid => ?_, fun _ => rfl⟩
    obtain ⟨r, hr, hrid⟩ := hwritten.saved_mem hid
    exact ⟨t, r, rfl, hr, hrid⟩

end Runs

end Scripted

end RecordRules
