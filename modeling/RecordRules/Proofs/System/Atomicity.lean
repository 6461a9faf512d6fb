import RecordRules.Proofs.System.Interference
import RecordRules.Proofs.System.Isolation

/-!
# Transactions are atomic and isolated

Either everything that a script writes becomes visible at once, at its end, or nothing ever does;
and a record that others have changed since the script has found it is not saved.

* `Scripted.Unsaved` and `Scripted.Seen` follow a record from where a script loads it first to where
  it saves it.
* `Reachable.transaction_atomic` is the theorem.
-/

set_option autoImplicit false

namespace RecordRules

/-! ## Records for everybody -/

/-- A record is gone, or it is there in another version. -/
def Database.Supersedes (db : Database) (r : Record) : Prop :=
  ∃ t, db.tables = some t ∧ ∀ x ∈ t.records, x.id = r.id → x.version ≠ r.version

/-- The row of a record. -/
def Database.row? (db : Database) (recordId : String) : Option Record :=
  db.tables.bind fun t => t.records.find? fun r => r.id == recordId

/-- Steps that leave the tables in place. -/
def Step.Keeping : Step → Prop
  | .operation .dropTables => False
  | .request _ => False
  | _ => True

/-! ## Records that are loaded -/

/-- The id of the record that a part of a script has loaded, if it was there. -/
def Action.foundId? : Action → Outcome → Option String
  | .load _ recordId, .record (some _) => some recordId
  | _, _ => none

/-- The ids of the records that the parts of a script have loaded. -/
def Action.foundIds : List Action → List Outcome → List String
  | action :: rest, outcome :: outcomes =>
    (action.foundId? outcome).toList ++ foundIds rest outcomes
  | _, _ => []

theorem Action.AllThroughout.of_append {p : Step → Prop} {script rest : List Action}
    (h : Action.AllThroughout p (script ++ rest)) :
    Action.AllThroughout p script ∧ Action.AllThroughout p rest := by
  induction script with
  | nil => exact ⟨trivial, h⟩
  | cons action script ih => exact ⟨⟨h.1, (ih h.2).1⟩, (ih h.2).2⟩

theorem Tables.mem_put_of_ne {t : Tables} {r record : Record} (h : r.id ≠ record.id) :
    r ∈ (t.put record).records ↔ r ∈ t.records := by
  rw [Tables.put]
  constructor
  · intro hr
    obtain ⟨s, hs, rfl⟩ := List.mem_map.1 hr
    by_cases hid : s.id = record.id
    · rw [if_pos (beq_iff_eq.2 hid)] at h
      exact (h hid).elim
    · rwa [if_neg (by rwa [beq_iff_eq])]
  · intro hr
    exact List.mem_map.2 ⟨r, hr, if_neg (by rwa [beq_iff_eq])⟩

namespace Scripted

variable {p : Step → Prop} {s : System} {x x₁ y : Scripted} {action : Action} {outcome : Outcome}
  {script : List Action} {outcomes : List Outcome} {writes : List Write}

/-- Only loading makes a record known to the transaction. -/
theorem Passes.loaded_eq_none {recordId : String} (hpass : x.Passes action outcome x₁)
    (hfound : recordId ∉ action.foundId? outcome) (h : x.tx.loaded.get? recordId = none) :
    x₁.tx.loaded.get? recordId = none := by
  cases hpass with
  | @load entityId id found tx hload =>
    obtain ⟨-, rfl⟩ | ⟨t, stored, -, -, rfl, rfl⟩ := Transaction.load_cases hload
    · exact h
    · have hne : recordId ≠ id := fun hsame => hfound (congrArg some hsame.symm)
      exact (Fields.get?_set_other _ _ hne).trans h
  | @save id _ _ old _ hold _ _ _ =>
    have hne : recordId ≠ id := fun hsame => by rw [← hsame, h] at hold; cases hold
    exact (Fields.get?_set_other _ _ hne).trans h
  | entry => exact h
  | outside => exact h

theorem PassesAll.loaded_eq_none {recordId : String} (hpasses : x.PassesAll script outcomes y)
    (hfound : recordId ∉ Action.foundIds script outcomes)
    (h : x.tx.loaded.get? recordId = none) : y.tx.loaded.get? recordId = none := by
  induction hpasses with
  | nil => exact h
  | cons hpass _ ih =>
    rw [Action.foundIds, List.mem_append, not_or, Option.mem_toList] at hfound
    exact ih hfound.2 (hpass.loaded_eq_none hfound.1 h)

/-- A record that the transaction knows it only changes by saving it. -/
theorem Passes.loaded_of_some {recordId : String} {r : Record} (hpass : x.Passes action outcome x₁)
    (hid : action.savedId? ≠ some recordId) (h : x.tx.loaded.get? recordId = some r) :
    x₁.tx.loaded.get? recordId = some r := by
  cases hpass with
  | @load entityId id found tx hload =>
    obtain ⟨-, rfl⟩ | ⟨t, stored, -, -, -, rfl⟩ := Transaction.load_cases hload
    · exact h
    · dsimp only [Transaction.afterLoad]
      by_cases hsame : recordId = id
      · rw [← hsame, Fields.get?_set_self, h]
        rfl
      · rwa [Fields.get?_set_other _ _ hsame]
  | @save id _ _ _ _ _ _ _ _ =>
    have hne : recordId ≠ id := fun hsame => hid (congrArg some hsame.symm)
    exact (Fields.get?_set_other _ _ hne).trans h
  | entry => exact h
  | outside => exact h

/-- The rows of a record that the transaction sees are those that everybody sees. -/
def Unsaved (recordId : String) (x : Scripted) : Prop :=
  ∀ v, x.tx.pending = some v → ∃ t, x.system.database.tables = some t ∧
    ∀ r : Record, r.id = recordId → (r ∈ v.records ↔ r ∈ t.records)

theorem Unsaved.view {recordId : String} (h : x.Unsaved recordId) {v : Tables}
    (hv : x.tx.view x.system.database = some v) :
    ∃ t, x.system.database.tables = some t ∧
      ∀ r : Record, r.id = recordId → (r ∈ v.records ↔ r ∈ t.records) := by
  rw [Transaction.view] at hv
  cases hpending : x.tx.pending with
  | none =>
    rw [hpending] at hv
    exact ⟨v, hv, fun _ _ => Iff.rfl⟩
  | some u =>
    rw [hpending] at hv
    cases hv
    exact h v hpending

/-- The record is known to the transaction, either in the version in which it has found it, or else
it has saved it, when it was still in that version for everybody. -/
def Seen (recordId : String) (version : Int) (x : Scripted) : Prop :=
  ∃ r, x.tx.loaded.get? recordId = some r ∧
    ((x.Unsaved recordId ∧ r.version = version) ∨
      (x.tx.pending.isSome = true ∧ ∃ t, x.system.database.tables = some t ∧
        ∃ s ∈ t.records, s.id = recordId ∧ s.version = version))

section Runs

variable (hp : ∀ r, ¬ p (.request r))
include hp

theorem Passes.unsaved {recordId : String} (hpass : x.Passes action outcome x₁)
    (haction : action.Throughout p) (hsound : x.Sound writes)
    (hid : action.savedId? ≠ some recordId) (h : x.Unsaved recordId) : x₁.Unsaved recordId := by
  cases hpass with
  | load hload =>
    intro v hv
    rw [Transaction.load_pending hload] at hv
    exact h v hv
  | @save id _ _ old v hold hv _ _ =>
    intro v' hv'
    cases hv'
    obtain ⟨t, ht, hrows⟩ := h.view hv
    refine ⟨t, ht, fun r hr => (Tables.mem_put_of_ne fun hsame => hid ?_).trans (hrows r hr)⟩
    rw [Action.savedId?, ← hsound.loaded id old hold, ← hr]
    exact congrArg some hsame.symm
  | @entry _ _ v _ _ _ hv _ _ _ =>
    intro v' hv'
    cases hv'
    obtain ⟨t, ht, hrows⟩ := h.view hv
    exact ⟨t, ht, hrows⟩
  | outside =>
    intro v hv
    have hpending : x.tx.pending.isSome = true := Option.isSome_iff_exists.2 ⟨v, hv⟩
    dsimp only
    rw [hsound.outside_database hp hpending haction]
    exact h v hv

/-- A record that has been found stays in mind, whatever the script does. -/
theorem Passes.seen {recordId : String} {version : Int} (hpass : x.Passes action outcome x₁)
    (haction : action.Throughout p) (hsound : x.Sound writes) (h : x.Seen recordId version) :
    x₁.Seen recordId version := by
  obtain ⟨r, hr, hcases⟩ := h
  by_cases hid : action.savedId? = some recordId
  · -- the save succeeds, so the record is still in its version for everybody
    cases hpass with
    | @save _ _ _ old v hold hv hfree hrow =>
      cases hid
      rw [hr] at hold
      cases hold
      refine ⟨_, Fields.get?_set_self _ _ _, .inr ⟨rfl, ?_⟩⟩
      rcases hcases with ⟨hunsaved, hversion⟩ | ⟨-, hthere⟩
      · obtain ⟨t, ht, hrows⟩ := hunsaved.view hv
        obtain ⟨y, hy, hyid, hyversion⟩ := hrow
        rw [hsound.loaded recordId r hr] at hyid
        exact ⟨t, ht, y, (hrows y hyid).1 hy, hyid, hyversion.trans hversion⟩
      · exact hthere
    | _ => cases hid
  · have hloaded : x₁.tx.loaded.get? recordId = some r := hpass.loaded_of_some hid hr
    refine ⟨r, hloaded, hcases.imp (fun h => ⟨hpass.unsaved hp haction hsound hid h.1, h.2⟩) ?_⟩
    rintro ⟨hpending, hthere⟩
    obtain ⟨hdatabase, hsome⟩ := hpass.database_of_pending hp haction hsound hpending
    exact ⟨hsome, by rwa [hdatabase]⟩

theorem PassesAll.seen {recordId : String} {version : Int} (hpasses : x.PassesAll script outcomes y)
    (hscript : Action.AllThroughout p script) (hsound : x.Sound writes)
    (h : x.Seen recordId version) : y.Seen recordId version := by
  induction hpasses generalizing writes with
  | nil => exact h
  | cons hpass _ ih =>
    obtain ⟨more, -, h₁⟩ := hpass.sound hp hscript.1 hsound
    exact ih hscript.2 h₁ (hpass.seen hp hscript.1 hsound h)

/-- What the script has not loaded it has not saved. -/
theorem PassesAll.unsaved {recordId : String} (hpasses : x.PassesAll script outcomes y)
    (hscript : Action.AllThroughout p script) (hsound : x.Sound writes)
    (hfound : recordId ∉ Action.foundIds script outcomes)
    (hloaded : x.tx.loaded.get? recordId = none) (h : x.Unsaved recordId) : y.Unsaved recordId := by
  induction hpasses generalizing writes with
  | nil => exact h
  | @cons x x₁ y action outcome rest outcomes hpass _ ih =>
    rw [Action.foundIds, List.mem_append, not_or, Option.mem_toList] at hfound
    obtain ⟨more, -, h₁⟩ := hpass.sound hp hscript.1 hsound
    have hid : action.savedId? ≠ some recordId := by
      intro hid
      cases hpass with
      | save hold _ _ _ =>
        cases hid
        rw [hloaded] at hold
        cases hold
      | _ => cases hid
    exact ih hscript.2 h₁ hfound.2 (hpass.loaded_eq_none hfound.1 hloaded)
      (hpass.unsaved hp hscript.1 hsound hid h)

end Runs

/-- A record that the script has in mind and that everybody else sees changed cannot be saved. -/
theorem Seen.stale {recordId : String} {version : Int} (h : x.Seen recordId version)
    (hsound : x.Sound writes) (hfree : x.tx.pending = none → x.system.database.locked = false)
    {t : Tables} (ht : x.system.database.tables = some t)
    (hchanged : ∀ r ∈ t.records, r.id = recordId → r.version ≠ version) (state : String)
    (actor : Option String) (savedAt : Moment) :
    x.tx.saveState x.system.database recordId state actor savedAt = .error .stale := by
  obtain ⟨r, hr, ⟨hunsaved, hversion⟩ | ⟨-, u, hu, y, hy, hid, hthere⟩⟩ := h
  · obtain ⟨v, hv⟩ : ∃ v, x.tx.view x.system.database = some v := by
      rw [Transaction.view]
      cases x.tx.pending with
      | none => exact ⟨t, ht⟩
      | some v => exact ⟨v, rfl⟩
    obtain ⟨u, hu, hrows⟩ := hunsaved.view hv
    rw [ht] at hu
    cases hu
    refine Transaction.saveState_stale hr hv hfree (fun y hy hid => ?_) state actor
      savedAt
    rw [hsound.loaded recordId r hr] at hid
    rw [hversion]
    exact hchanged y ((hrows y hid).1 hy) hid
  · rw [ht] at hu
    cases hu
    exact (hchanged y hy hid hthere).elim

/-! ## Records that others change -/

/-- A script comes to a record for the first time and finds it; the outcomes of its parts so
far. -/
def Finds (s : System) (before : List Action) (entityId recordId : String)
    (outcomes : List Outcome) (r : Record) (x : Scripted) : Prop :=
  ∃ earlier x₀, runScript { system := s } before = (earlier, none, x₀) ∧
    recordId ∉ Action.foundIds before earlier ∧
    (Action.load entityId recordId).run x₀ = (.ok (.record (some r)), x) ∧
    outcomes = earlier ++ [.record (some r)]

section Finds

variable {before : List Action} {entityId recordId : String} {r : Record}

theorem Finds.runScript_eq (h : Finds s before entityId recordId outcomes r x) :
    runScript { system := s } (before ++ [.load entityId recordId]) = (outcomes, none, x) := by
  obtain ⟨earlier, x₀, hrun, -, hload, rfl⟩ := h
  rw [runScript_append hrun, runScript, hload]
  rfl

variable (hp : ∀ r, ¬ p (.request r))
include hp

/-- What a script has found is there for everybody, and it is in the mind of the script. -/
theorem Finds.seen (h : Finds s before entityId recordId outcomes r x)
    (hbefore : Action.AllThroughout p before) (hk : s.database.Keyed) :
    x.Seen recordId r.version ∧ r.id = recordId ∧
      ∃ t, x.system.database.tables = some t ∧ r ∈ t.records := by
  obtain ⟨earlier, x₀, hrun, hfound, hload, -⟩ := h
  have hpasses := passesAll_of_runScript hrun
  have hnone := hpasses.loaded_eq_none hfound (Fields.get?_nil _)
  have hunsaved := hpasses.unsaved hp hbefore (.start hk) hfound (Fields.get?_nil _)
    fun _ h => nomatch h
  cases Action.passes_of_run hload with
  | load hloaded =>
    obtain ⟨h, -⟩ | ⟨t, stored, hview, hstored, hr, rfl⟩ := Transaction.load_cases hloaded
    · cases h
    · rw [hnone, Option.getD_none, Option.some.injEq] at hr
      rw [hr]
      obtain ⟨hmem, hid⟩ := Tables.record?_id hstored
      obtain ⟨u, hu, hrows⟩ := hunsaved.view hview
      refine ⟨⟨stored, ?_, .inl ⟨hunsaved, rfl⟩⟩, hid, u, hu, (hrows stored hid).1 hmem⟩
      dsimp only [Transaction.afterLoad]
      rw [Fields.get?_set_self, hnone]
      rfl

/-- **A record that others have changed is not saved.** -/
theorem Finds.stale {between : List Action} {more : List Outcome}
    (h : Finds s before entityId recordId outcomes r x)
    (hscript : Action.AllThroughout p (before ++ [.load entityId recordId] ++ between))
    (hk : s.database.Keyed) (hrun : runScript x between = (more, none, y))
    (hchanged : y.system.database.Supersedes r) (state : String) (actor : Option String)
    (savedAt : Moment) :
    y.tx.saveState y.system.database recordId state actor savedAt = .error .stale := by
  obtain ⟨hfirst, hbetween⟩ := hscript.of_append
  obtain ⟨hseen, hid, t, ht, hr⟩ := h.seen hp hfirst.of_append.1 hk
  obtain ⟨u, hu, hne⟩ := hchanged
  rw [hid] at hne
  have hx := passesAll_of_runScript h.runScript_eq
  have hy : PassesAll { system := s } (before ++ [.load entityId recordId] ++ between)
      (outcomes ++ more) y :=
    passesAll_of_runScript (by rw [runScript_append h.runScript_eq, hrun])
  obtain ⟨writes, -, hsound⟩ := hx.sound hp hfirst (.start hk)
  obtain ⟨_, -, hsound'⟩ := hy.sound hp hscript (.start hk)
  refine ((passesAll_of_runScript hrun).seen hp hbetween hsound hseen).stale hsound' ?_ hu hne state
    actor savedAt
  intro hpending
  cases hl : s.database.locked with
  | false => rw [hy.locked_of_none hp hscript hk hpending, hl]
  | true =>
    -- nobody can have changed the record
    rw [hy.database_of_locked hp hscript hk hl, ← hx.database_of_locked hp hfirst hk hl, ht] at hu
    cases hu
    exact (hne r hr hid rfl).elim

end Finds

/-! ## What others change as long as the tables stay in place -/

/-- Steps of others in the middle of a script change the row of a record. -/
def Changes (x : Scripted) (script : List Action) (recordId : String) : Prop :=
  ∃ earlier steps later outcomes y, script = earlier ++ .outside steps :: later ∧
    runScript x earlier = (outcomes, none, y) ∧
    y.system.database.row? recordId ≠ (runAll y.system steps).2.database.row? recordId

section Keeping

variable (hp : ∀ r, ¬ p (.request r)) (hdrop : ¬ p (.operation .dropTables)) {t : Tables}
include hp hdrop

theorem runAll_grows {steps : List Step} (hsteps : Step.AllThroughout p steps)
    (hk : s.database.Keyed) (ht : s.database.tables = some t) :
    ∃ u, (runAll s steps).2.database.tables = some u ∧ t.Grows u := by
  cases hl : s.database.locked with
  | true =>
    rw [(runAll_locked hp steps hsteps s hl hk).database]
    exact ⟨t, ht, .refl t⟩
  | false => exact (runAll_advances hp steps hsteps s hk hl).1.grows hdrop ht (hk t ht)

theorem PassesAll.grows (hpasses : x.PassesAll script outcomes y)
    (hscript : Action.AllThroughout p script) (hsound : x.Sound writes)
    (ht : x.system.database.tables = some t) :
    ∃ u, y.system.database.tables = some u ∧ t.Grows u := by
  induction hpasses generalizing writes t with
  | nil => exact ⟨t, ht, .refl t⟩
  | @cons x x₁ _ _ _ _ _ hpass _ ih =>
    obtain ⟨more, -, h₁⟩ := hpass.sound hp hscript.1 hsound
    have hstep : ∃ u, x₁.system.database.tables = some u ∧ t.Grows u := by
      cases hpass with
      | outside => exact runAll_grows hp hdrop hscript.1 hsound.keyed ht
      | _ => exact ⟨t, ht, .refl t⟩
    obtain ⟨u, hu, htu⟩ := hstep
    obtain ⟨v, hv, huv⟩ := ih hscript.2 h₁ hu
    exact ⟨v, hv, htu.trans huv⟩

/-- A row that has changed is in a later version from then on. -/
theorem Changes.supersedes {recordId : String} {r : Record} (h : x.Changes script recordId)
    (hscript : Action.AllThroughout p script) (hsound : x.Sound writes)
    (ht : x.system.database.tables = some t) (hr : r ∈ t.records) (hid : r.id = recordId)
    (hrun : runScript x script = (outcomes, none, y)) : y.system.database.Supersedes r := by
  obtain ⟨earlier, steps, later, outcomes', z, rfl, hearlier, hchanged⟩ := h
  obtain ⟨hfirst, hsteps, hlater⟩ := hscript.of_append
  have hz := passesAll_of_runScript hearlier
  obtain ⟨more, -, hsoundz⟩ := hz.sound hp hfirst hsound
  have hrest : ∃ others, runScript z (.outside steps :: later) = (others, none, y) := by
    rw [runScript_append hearlier] at hrun
    exact ⟨_, Prod.ext rfl (Prod.mk.inj hrun).2⟩
  obtain ⟨others, hrest⟩ := hrest
  obtain ⟨outcome, z₁, others, hstep, hrest, -⟩ := runScript_cons_of_none hrest
  rw [Action.run] at hstep
  cases hstep
  have hpass : z.Passes (.outside steps) _ _ := .outside
  obtain ⟨_, -, hsound₁⟩ := hpass.sound hp hsteps hsoundz
  have hy := passesAll_of_runScript hrest
  obtain ⟨_, -, hsoundy⟩ := hy.sound hp hlater hsound₁
  -- the record in its forms before, after the steps, and at the end
  obtain ⟨ta, hta, hgrowsa⟩ := hz.grows hp hdrop hfirst hsound ht
  obtain ⟨tb, htb, hgrowsb⟩ := runAll_grows hp hdrop hsteps hsoundz.keyed hta
  obtain ⟨u, hu, hgrowsu⟩ := hy.grows hp hdrop hlater hsound₁ htb
  obtain ⟨ra, hra, hrra⟩ := hgrowsa.records r hr
  obtain ⟨rb, hrb, hrab⟩ := hgrowsb.records ra hra
  obtain ⟨ru, hru, hrbu⟩ := hgrowsu.records rb hrb
  have hrow : ∀ {db : Database} {v : Tables} {x : Record}, db.tables = some v → v.Keyed →
      x ∈ v.records → x.id = recordId → db.row? recordId = some x := by
    intro db v x hv hk hx hxid
    rw [Database.row?, hv, Option.bind_some]
    exact (find?_key_eq_some_iff hk.records).2 ⟨hx, hxid⟩
  have hlt : ra.version < rb.version := by
    refine Int.lt_iff_le_and_ne.2 ⟨hrab.version, fun hsame => hchanged ?_⟩
    rw [hrow hta (hsoundz.keyed ta hta) hra (hrra.id.trans hid),
      hrow htb (hsound₁.keyed tb htb) hrb (hrab.id.trans (hrra.id.trans hid)), hrab.same hsame.symm]
  refine ⟨u, hu, fun v hv hvid => ?_⟩
  have hsame : v = ru := List.inj_on_of_nodup_map (hsoundy.keyed u hu).records hv hru
    (hvid.trans (hrbu.id.trans (hrab.id.trans hrra.id)).symm)
  have hle := hrra.version
  have hle' := hrbu.version
  rw [hsame]
  omega

end Keeping
end Scripted

/-! ## Transactions -/

/-- A save that fails ends the transaction. -/
theorem Step.run_transaction_of_saveState {s : System} {done rest : List Action}
    {outcomes : List Outcome} {x : Scripted} {e : TransactionError} {recordId state : String}
    {actor : Option String} (hdone : runScript { system := s } done = (outcomes, none, x))
    (herror : x.tx.saveState x.system.database recordId state actor x.system.now = .error e) :
    ((Step.transaction (done ++ .saveState recordId state actor :: rest)).run s).1 =
      .transaction outcomes (some (x.tx.failure e)) := by
  have hrun : runScript { system := s } (done ++ .saveState recordId state actor :: rest) =
      (outcomes, some (x.tx.failure e), x) := by
    rw [runScript_append hdone, runScript, Action.run, Scripted.afterWrite.eq_def, herror]
    simp [Except.map]
  rw [Step.run, hrun]

theorem not_request_of_local (r : Request) : ¬ Step.Local (.request r) := fun h => h

theorem not_request_of_keeping (r : Request) : ¬ Step.Keeping (.request r) := fun h => h

/-- **Transactions are atomic and isolated.**  In every reachable system, for a script that runs
while others take their own steps:

* if the script fails, the database is the one to which the steps of others alone have led;
* if it comes to its end, that is the database with all of its writes: every record in the last
  state that was saved of it, by the last actor, with the moment of that save, one version later for
  each save, and its audit entries in order;
* before that, others see the database without the script, apart from its lock;
* the script fails at the save of a record that it has not found, with a failure of the store;
* it fails at the save of a record that others have changed since it has first found it, with a
  conflict.  Others have changed it if it is not there in its version any more, or, where they leave
  the tables in place, if its row has changed at any time. -/
theorem Reachable.transaction_atomic {s : System} {notes : List Note}
    (h : Reachable Step.Local s notes) {script : List Action}
    (hscript : Action.AllThroughout Step.Local script) :
    (∀ outcomes e after, (Step.transaction script).run s = (.transaction outcomes (some e), after) →
        after.database = (s.without (script.take outcomes.length)).database) ∧
      (∀ outcomes after, (Step.transaction script).run s = (.transaction outcomes none, after) →
        ∃ entries, List.Forall₂ AuditEntry.KeptAs (script.filterMap Action.entry?) entries ∧
          after.database = { (s.without script).database with
            tables := (s.without script).database.tables.map fun t =>
              t.rewritten (fun id => script.filterMap (Action.saveOf? id))
                (fun id => Scripted.lastSave? id { system := s } script) entries } ∧
          (∀ recordId ∈ script.filterMap Action.savedId?, ∃ t r,
            (s.without script).database.tables = some t ∧ r ∈ t.records ∧ r.id = recordId) ∧
          (entries ≠ [] → (s.without script).database.tables.isSome = true)) ∧
      (∀ done rest outcomes x, script = done ++ rest →
        runScript { system := s } done = (outcomes, none, x) →
        x.system.database = { (s.without done).database with
          locked := (s.without done).database.locked || x.tx.writes }) ∧
      (∀ done rest recordId state actor outcomes x,
        script = done ++ .saveState recordId state actor :: rest →
        runScript { system := s } done = (outcomes, none, x) →
        recordId ∉ Action.foundIds done outcomes →
        ∃ e, ((Step.transaction script).run s).1 = .transaction outcomes (some e) ∧
          e.IsOf .storage) ∧
      ∀ before entityId between rest recordId state actor outcomes more r x y,
        script = before ++ [.load entityId recordId] ++ between ++
          .saveState recordId state actor :: rest →
        Scripted.Finds s before entityId recordId outcomes r x →
        runScript x between = (more, none, y) →
        (y.system.database.Supersedes r ∨
          (Action.AllThroughout Step.Keeping between ∧ x.Changes between recordId)) →
        ∃ e, ((Step.transaction script).run s).1 = .transaction (outcomes ++ more) (some e) ∧
          e.IsOf .conflict := by
  have hk := h.keyed not_request_of_local
  have hpasses := runScript_passes script { system := s }
  have htaken : ∀ n, Action.AllThroughout Step.Local (script.take n) := fun n =>
    (Action.AllThroughout.of_append (by rwa [List.take_append_drop])).1
  refine ⟨fun outcomes e after hrun => ?_, fun outcomes after hrun => ?_,
    fun done rest outcomes x hsplit hrun => ?_,
    fun done rest recordId state actor outcomes x hsplit hrun hfound => ?_,
    fun before entityId between rest recordId state actor outcomes more r x y hsplit hfinds hrun
      hchanged => ?_⟩
  · rw [Step.run] at hrun
    cases hscripted : runScript { system := s } script with
    | mk parts last =>
      obtain ⟨failure, y⟩ := last
      rw [hscripted] at hrun hpasses
      cases failure with
      | none => cases hrun
      | some failure =>
        cases hrun
        exact hpasses.rollback_eq not_request_of_local (htaken _) hk
  · rw [Step.run] at hrun
    cases hscripted : runScript { system := s } script with
    | mk parts last =>
      obtain ⟨failure, y⟩ := last
      rw [hscripted] at hrun
      cases failure with
      | some failure => cases hrun
      | none =>
        cases hrun
        exact (passesAll_of_runScript hscripted).commit_eq not_request_of_local hscript hk
  · subst hsplit
    exact ((passesAll_of_runScript hrun).apart not_request_of_local hscript.of_append.1 (.start hk)
      rfl).1
  · subst hsplit
    have hnone := (passesAll_of_runScript hrun).loaded_eq_none hfound (Fields.get?_nil _)
    have hsave : x.tx.saveState x.system.database recordId state actor x.system.now =
        .error (.notLoaded recordId) := by
      rw [Transaction.saveState, hnone]
    exact ⟨_, Step.run_transaction_of_saveState hrun hsave, _, rfl, rfl⟩
  · subst hsplit
    have hdone := hscript.of_append.1
    have hwhole : runScript { system := s } (before ++ [.load entityId recordId] ++ between) =
        (outcomes ++ more, none, y) := by
      rw [runScript_append hfinds.runScript_eq, hrun]
    have hsupersedes : y.system.database.Supersedes r := by
      rcases hchanged with hchanged | ⟨hkeeping, hchanges⟩
      · exact hchanged
      · obtain ⟨-, hid, t, ht, hr⟩ :=
          hfinds.seen not_request_of_local hdone.of_append.1.of_append.1 hk
        obtain ⟨writes, -, hsound⟩ := (passesAll_of_runScript hfinds.runScript_eq).sound
          not_request_of_local hdone.of_append.1 (.start hk)
        exact hchanges.supersedes not_request_of_keeping (fun h => h) hkeeping hsound ht hr hid hrun
    have hstale := hfinds.stale not_request_of_local hdone hk hrun hsupersedes state actor
      y.system.now
    exact ⟨_, Step.run_transaction_of_saveState hwhole hstale, _, rfl, Fault.of_kind _ _ _⟩

namespace Paper

/-- An entry about the draft. -/
def noted : AuditEntry :=
  { id := some "first", entityId := "paper", recordId := "draft", workflowId := "approval"
    fromState := "DRAFT", toState := "SIGNED", transitionId := "sign", transitionLabel := none
    performedBy := none, performedAt := .ofClock {}, comments := none, metadata := none }

/-- A script signs the draft twice and notes it. -/
def signTwice : List Action :=
  [.load "paper" "draft", .saveState "draft" "SIGNED" none, .appendAudit noted,
   .outside [.operation (.assignRole "bob" "clerk")], .saveState "draft" "SIGNED" (some "ann")]

/-- A script signs a draft that others have signed since it has loaded it. -/
def signLate : List Action :=
  [.load "paper" "draft", .outside takenBack, .saveState "draft" "SIGNED" (some "ann")]

/-- Whether a script that loads the draft finds it, and others then change it. -/
def overtaken (s : System) : Bool :=
  match (Action.load "paper" "draft").run { system := s } with
  | (.ok (.record (some r)), x) =>
    (runScript x [.outside takenBack]).2.1.isNone &&
      (runScript x [.outside takenBack]).2.2.system.database.tables.any fun t =>
        t.records.all fun v => v.id != r.id || v.version != r.version
  | _ => false

end Paper

/-- A script that signs the draft twice comes to its end with all that it has written, and one that
is late fails and leaves what others have written. -/
theorem transaction_atomic_signing :
    (∃ outcomes after entries,
      (Step.transaction Paper.signTwice).run (runAll {} Paper.setUp).2 =
        (.transaction outcomes none, after) ∧
      List.Forall₂ AuditEntry.KeptAs [Paper.noted] entries ∧
      after.database = { ((runAll {} Paper.setUp).2.without Paper.signTwice).database with
        tables := ((runAll {} Paper.setUp).2.without Paper.signTwice).database.tables.map fun t =>
          t.rewritten (fun id => Paper.signTwice.filterMap (Action.saveOf? id))
            (fun id => Scripted.lastSave? id { system := (runAll {} Paper.setUp).2 }
              Paper.signTwice) entries }) ∧
    ∃ outcomes e after,
      (Step.transaction Paper.signLate).run (runAll {} Paper.setUp).2 =
        (.transaction outcomes (some e), after) ∧
      e.IsOf .conflict ∧
      after.database =
        ((runAll {} Paper.setUp).2.without (Paper.signLate.take outcomes.length)).database := by
  have hends : (runScript { system := (runAll {} Paper.setUp).2 } Paper.signTwice).2.1.isNone =
      true := by decide +kernel
  have hlate : Paper.overtaken (runAll {} Paper.setUp).2 = true := by decide +kernel
  have hreachable : Reachable Step.Local (runAll {} Paper.setUp).2 _ :=
    .of_run ⟨trivial, trivial, trivial, trivial, trivial, trivial⟩
  have hlocal : Action.AllThroughout Step.Local Paper.signTwice :=
    ⟨trivial, trivial, trivial, ⟨trivial, trivial⟩, trivial, trivial⟩
  have hlocal' : Action.AllThroughout Step.Local Paper.signLate :=
    ⟨trivial, ⟨⟨trivial, trivial, trivial, trivial, trivial⟩, trivial⟩, trivial, trivial⟩
  generalize (runAll {} Paper.setUp).2 = s at hends hlate hreachable ⊢
  constructor
  · cases hrun : runScript { system := s } Paper.signTwice with
    | mk outcomes last =>
      obtain ⟨failure, x⟩ := last
      rw [hrun] at hends
      cases Option.isNone_iff_eq_none.1 hends
      have hstep : (Step.transaction Paper.signTwice).run s =
          (.transaction outcomes none, x.commit) := by rw [Step.run, hrun]
      obtain ⟨entries, hentries, hdatabase, -⟩ :=
        (hreachable.transaction_atomic hlocal).2.1 _ _ hstep
      exact ⟨outcomes, _, entries, hstep, hentries, hdatabase⟩
  · obtain ⟨hfails, -, -, -, hconflict⟩ := hreachable.transaction_atomic hlocal'
    rw [Paper.overtaken] at hlate
    split at hlate
    case h_2 => cases hlate
    case h_1 r x hload =>
      rw [Bool.and_eq_true, Option.any_eq_true] at hlate
      obtain ⟨hends, t, ht, hchanged⟩ := hlate
      cases hrun : runScript x [.outside Paper.takenBack] with
      | mk more last =>
        obtain ⟨failure, y⟩ := last
        rw [hrun] at hends ht
        cases Option.isNone_iff_eq_none.1 hends
        have hsupersedes : y.system.database.Supersedes r := by
          refine ⟨t, ht, fun v hv hid => ?_⟩
          have hv := List.all_eq_true.1 hchanged v hv
          rw [Bool.or_eq_true, bne_iff_ne, bne_iff_ne] at hv
          exact hv.resolve_left (not_not_intro hid)
        have hfinds : Scripted.Finds s [] "paper" "draft" [.record (some r)] r x :=
          ⟨[], _, rfl, List.not_mem_nil, hload, rfl⟩
        obtain ⟨e, he, hkind⟩ := hconflict [] "paper" [.outside Paper.takenBack] [] "draft" "SIGNED"
          (some "ann") _ more r x y rfl hfinds hrun (.inl hsupersedes)
        exact ⟨_, e, _, Prod.ext he rfl, hkind, hfails _ _ _ (Prod.ext he rfl)⟩

end RecordRules
