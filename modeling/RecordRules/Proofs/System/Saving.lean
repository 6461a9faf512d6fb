import RecordRules.Proofs.Store.Rows
import RecordRules.Proofs.System.Exactness

/-!
# Inserts

To save an entity, a rule, a measure or a workflow, or to create a record, adds one row with all
that belongs to it, or nothing.

* `Operation.Adds` says which row an insert adds to tables: none of its keys may be taken, and the
  store has to have a form for its values.  `Database.saveEntity_adds` to
  `Database.createRecord_adds` show that the operations of the store do just that.
* `Operation.Present` is what can be looked up once an insert has succeeded, and `Adds.present`
  shows that all of it is there.
* `Reachable.inserts_atomic` is the theorem about all systems that runs lead to.
-/

set_option autoImplicit false

namespace RecordRules

/-! ## What an insert adds -/

namespace Operation

/-- An operation that adds a definition or a record. -/
def IsInsert : Operation → Prop
  | .saveEntity _ | .saveRule .. | .saveMeasure _ | .saveWorkflow _ | .createRecord _ => True
  | _ => False

/-- The row that an insert adds to tables at a moment, if they can take it. -/
inductive Adds (t : Tables) (now : Moment) : Operation → Insert → Prop
  | entity {e e' : Entity} (hid : ∀ x ∈ t.entities, x.id ≠ e.id) (h : e.stored = .ok e') :
    Adds t now (.saveEntity e) (.entity e')
  | rule {r : Rule} {active : Bool} {metadata : Fields Value}
    (hid : ∀ x ∈ t.rules, x.rule.id ≠ r.id) (h : documentFields r.metadata = .ok metadata) :
    Adds t now (.saveRule r active) (.rule ⟨{ r with metadata }, active⟩)
  | measure {m m' : Measure} {id : String}
    (hgiven : id = idOr m.id (t.measures.filterMap Measure.id))
    (hid : ∀ x ∈ t.measures, x.id ≠ some id)
    (hversion : ∀ x ∈ t.measures, x.identifier = m.identifier → x.version ≠ m.version)
    (hnarrow : isWide m.version = false) (h : m.stored "" = .ok m') :
    Adds t now (.saveMeasure m) (.measure { m' with id := some id })
  | workflow {w w' : Workflow} (hid : ∀ x ∈ t.workflows, x.id ≠ w.id)
    (hstates : (w.states.map WorkflowState.name).Nodup)
    (htransitions : (w.transitions.map Transition.id).Nodup)
    (hnew : ∀ u ∈ w.transitions, ∀ x ∈ Database.allTransitions t, x.id ≠ u.id)
    (h : w.stored = .ok w') : Adds t now (.saveWorkflow w) (.workflow w')
  | record {n : NewRecord} {data : Fields Value} {id : String}
    (hgiven : id = idOr n.id (t.records.map Record.id)) (hid : ∀ x ∈ t.records, x.id ≠ id)
    (h : documentFields n.data = .ok data) :
    Adds t now (.createRecord n) (.record { n.record id now with data })

/-- The operation makes the second database of the first by adding a row to it at a moment. -/
def Extends (o : Operation) (now : Moment) (db db' : Database) : Prop :=
  ∃ t i, db.tables = some t ∧ db.locked = false ∧ o.Adds t now i ∧
    db' = { db with tables := some (i.apply t) }

end Operation

namespace Database

variable {α : Type} {db db' : Database} {o : Operation} {now : Moment}

theorem change_eq_ok_iff_extends {operation : String} {table : Table}
    {action : Tables → Except Refusal (α × Tables)}
    (haction : ∀ t ∈ db.tables, ∀ u, (∃ a, action t = .ok (a, u)) ↔
      ∃ i, o.Adds t now i ∧ u = i.apply t) :
    (∃ a, db.change operation table action = .ok (a, db')) ↔ o.Extends now db db' := by
  simp only [change_eq_ok_iff]
  constructor
  · rintro ⟨a, t, u, ht, hl, hu, rfl⟩
    obtain ⟨i, hi, rfl⟩ := (haction t ht u).1 ⟨a, hu⟩
    exact ⟨t, i, ht, hl, hi, rfl⟩
  · rintro ⟨t, i, ht, hl, hi, rfl⟩
    obtain ⟨a, ha⟩ := (haction t ht _).2 ⟨i, hi, rfl⟩
    exact ⟨a, t, _, ht, hl, ha, rfl⟩

theorem write_eq_ok_iff_extends {operation : String} {table : Table}
    {action : Tables → Except Refusal Tables}
    (haction : ∀ t ∈ db.tables, ∀ u, action t = .ok u ↔ ∃ i, o.Adds t now i ∧ u = i.apply t) :
    db.write operation table action = .ok db' ↔ o.Extends now db db' := by
  rw [write_eq_ok_iff]
  constructor
  · rintro ⟨t, u, ht, hl, hu, rfl⟩
    obtain ⟨i, hi, rfl⟩ := (haction t ht u).1 hu
    exact ⟨t, i, ht, hl, hi, rfl⟩
  · rintro ⟨t, i, ht, hl, hi, rfl⟩
    exact ⟨t, _, ht, hl, (haction t ht _).2 ⟨i, hi, rfl⟩, rfl⟩

/-- No row has a key that is looked for. -/
theorem any_key_iff {β κ : Type} [BEq κ] [LawfulBEq κ] {f : β → κ} {l : List β} {k : κ} :
    ¬ (l.any fun x => f x == k) = true ↔ ∀ x ∈ l, f x ≠ k := by
  simp

theorem saveEntity_adds {e : Entity} :
    db.saveEntity e = .ok db' ↔ (Operation.saveEntity e).Extends now db db' := by
  refine write_eq_ok_iff_extends fun t ht u => ?_
  rw [guard_eq_ok_iff, any_key_iff]
  simp only [bind_eq_ok_iff, pure_eq_ok, Except.ok.injEq]
  constructor
  · rintro ⟨hid, e', he', rfl⟩
    exact ⟨.entity e', .entity hid he', rfl⟩
  · rintro ⟨_, hadds, rfl⟩
    cases hadds with
    | entity hid he' => exact ⟨hid, _, he', rfl⟩

theorem saveRule_adds {r : Rule} {active : Bool} :
    db.saveRule r active = .ok db' ↔ (Operation.saveRule r active).Extends now db db' := by
  rw [saveRule]
  cases hmetadata : documentFields r.metadata with
  | error refusal =>
    constructor
    · intro hdone
      cases hdone
    · rintro ⟨t, _, -, -, hadds, -⟩
      cases hadds with
      | rule _ hkept =>
        rw [hmetadata] at hkept
        cases hkept
  | ok metadata =>
    refine write_eq_ok_iff_extends fun t ht u => ?_
    rw [guard_eq_ok_iff, any_key_iff, Except.ok.injEq]
    constructor
    · rintro ⟨hid, rfl⟩
      exact ⟨_, .rule hid hmetadata, rfl⟩
    · rintro ⟨_, hadds, rfl⟩
      cases hadds with
      | rule hid hkept =>
        rw [hmetadata] at hkept
        cases hkept
        exact ⟨hid, rfl⟩

theorem saveMeasure_adds {m : Measure} :
    db.saveMeasure m = .ok db' ↔ (Operation.saveMeasure m).Extends now db db' := by
  rw [saveMeasure]
  cases hstored : m.stored "" with
  | error refusal =>
    constructor
    · intro hdone
      cases hdone
    · rintro ⟨t, _, -, -, hadds, -⟩
      cases hadds with
      | measure _ _ _ _ hkept =>
        rw [hstored] at hkept
        cases hkept
  | ok m' =>
    refine write_eq_ok_iff_extends fun t ht u => ?_
    have hversions : ¬ (t.measures.any fun x =>
        x.identifier == m.identifier && x.version == m.version) = true ↔
          ∀ x ∈ t.measures, x.identifier = m.identifier → x.version ≠ m.version := by
      simp
    rw [guard_eq_ok_iff, guard_eq_ok_iff, guard_eq_ok_iff, any_key_iff, hversions, Except.ok.injEq,
      Bool.not_eq_true]
    constructor
    · rintro ⟨hnarrow, hversion, hid, rfl⟩
      exact ⟨_, .measure rfl hid hversion hnarrow hstored, rfl⟩
    · rintro ⟨_, hadds, rfl⟩
      cases hadds with
      | measure hgiven hid hversion hnarrow hkept =>
        rw [hstored] at hkept
        cases hkept
        subst hgiven
        exact ⟨hnarrow, hversion, hid, rfl⟩

theorem saveWorkflow_adds (hk : db.Keyed) {w : Workflow} :
    db.saveWorkflow w = .ok db' ↔ (Operation.saveWorkflow w).Extends now db db' := by
  refine write_eq_ok_iff_extends fun t ht u => ?_
  have hrepeated : ∀ names : List String, ¬ (repeated? names).isSome = true ↔ names.Nodup :=
    fun names => by rw [Option.not_isSome_iff_eq_none, repeated?_eq_none_iff]
  rw [guard_eq_ok_iff, guard_eq_ok_iff, any_key_iff, hrepeated]
  simp only [bind_eq_ok_iff, guard_eq_ok_iff, hrepeated, pure_eq_ok, Except.ok.injEq]
  constructor
  · rintro ⟨hid, hstates, w', hw', hids, rfl⟩
    obtain ⟨-, htransitions, hdisjoint⟩ := List.nodup_append.1 hids
    refine ⟨.workflow w', .workflow hid hstates htransitions (fun u hu x hx => ?_) hw', rfl⟩
    exact hdisjoint x.id (List.mem_map_of_mem hx) u.id (List.mem_map_of_mem hu)
  · rintro ⟨_, hadds, rfl⟩
    cases hadds with
    | workflow hid hstates htransitions hnew hw' =>
      have hids : (Database.allTransitions t ++ w.transitions).map Transition.id |>.Nodup :=
        nodup_map_append (hk t ht).transitions htransitions hnew
      rw [List.map_append] at hids
      exact ⟨hid, hstates, _, hw', hids, rfl⟩

theorem createRecord_adds {n : NewRecord} :
    (∃ r, db.createRecord now n = .ok (r, db')) ↔
      (Operation.createRecord n).Extends now db db' := by
  rw [createRecord]
  cases hdata : documentFields n.data with
  | error refusal =>
    constructor
    · rintro ⟨_, hdone⟩
      cases hdone
    · rintro ⟨t, _, -, -, hadds, -⟩
      cases hadds with
      | record _ _ hkept =>
        rw [hdata] at hkept
        cases hkept
  | ok data =>
    refine change_eq_ok_iff_extends fun t ht u => ?_
    simp only [guard_eq_ok_iff, any_key_iff, Except.ok.injEq, Prod.mk.injEq]
    constructor
    · rintro ⟨r, hid, rfl, rfl⟩
      exact ⟨_, .record rfl hid hdata, rfl⟩
    · rintro ⟨_, hadds, rfl⟩
      cases hadds with
      | record hgiven hid hkept =>
        rw [hdata] at hkept
        cases hkept
        subst hgiven
        exact ⟨_, hid, rfl, rfl⟩

end Database

/-! ## Inserts that succeed and fail -/

/-- The failure that an answer reports, if it does. -/
def Answer.failure? : Answer → Option Failure
  | .result r => failureOf r
  | .measured r _ => failureOf r
  | _ => none

namespace Operation

variable {o : Operation} {db db' : Database} {t : Tables} {i : Insert} {now : Moment}

theorem changes_error {s : System} {r : Result Database} {e : Failure} (h : r = .error e) :
    (changes s r).1.failure? = some e ∧ (changes s r).2 = s := by
  subst h
  exact ⟨rfl, rfl⟩

theorem changes_ok {s : System} {r : Result Database} (h : r = .ok db) :
    (changes s r).1.failure? = none ∧ (changes s r).2 = s.withDatabase db := by
  subst h
  exact ⟨rfl, rfl⟩

/-- What an insert answers and leaves, read off from what the store says to it. -/
theorem cases_of_result {s : System} {r : Result Database} {a : Answer × System}
    (hextends : ∀ db, r = .ok db ↔ o.Extends s.now s.database db)
    (herror : ∀ e, r = .error e → a.1.failure? = some e ∧ a.2 = s)
    (hok : ∀ db, r = .ok db → a.1.failure? = none ∧ a.2 = s.withDatabase db) :
    (∃ e, a.1.failure? = some e ∧ a.2 = s ∧ ∀ db, ¬ o.Extends s.now s.database db) ∨
      ∃ db, a.1.failure? = none ∧ a.2 = s.withDatabase db ∧ o.Extends s.now s.database db := by
  cases r with
  | error e =>
    obtain ⟨hfailure, hsame⟩ := herror e rfl
    exact Or.inl ⟨e, hfailure, hsame, fun db hdb => nomatch (hextends db).2 hdb⟩
  | ok db =>
    obtain ⟨hfailure, hdb⟩ := hok db rfl
    exact Or.inr ⟨db, hfailure, hdb, (hextends db).1 rfl⟩

/-- **An insert adds its row or does nothing.**  It fails exactly if there is no row to add, and
then the system is as it was. -/
theorem IsInsert.run_cases (ho : o.IsInsert) {s : System} (hk : s.database.Keyed) :
    (∃ e, (o.run s).1.failure? = some e ∧ (o.run s).2 = s ∧ ∀ db, ¬ o.Extends s.now s.database db) ∨
      ∃ db, (o.run s).1.failure? = none ∧ (o.run s).2 = s.withDatabase db ∧
        o.Extends s.now s.database db := by
  cases o with
  | saveEntity e =>
    exact cases_of_result (fun _ => Database.saveEntity_adds) (fun _ => changes_error)
      fun _ => changes_ok
  | saveRule r active =>
    exact cases_of_result (fun _ => Database.saveRule_adds) (fun _ => changes_error)
      fun _ => changes_ok
  | saveMeasure m =>
    refine cases_of_result (fun _ => Database.saveMeasure_adds) (fun e he => ?_) fun db hdb => ?_
    · rw [run, he]
      exact ⟨rfl, rfl⟩
    · rw [run, hdb]
      exact ⟨rfl, rfl⟩
  | saveWorkflow w =>
    exact cases_of_result (fun _ => Database.saveWorkflow_adds hk) (fun _ => changes_error)
      fun _ => changes_ok
  | createRecord n =>
    refine cases_of_result (r := Prod.snd <$> s.database.createRecord s.now n) (fun db => ?_)
      (fun e he => ?_) fun db hdb => ?_
    · rw [← Database.createRecord_adds, map_eq_ok_iff, Prod.exists]
      simp
    · rw [run, map_eq_error_iff.1 he]
      exact ⟨rfl, rfl⟩
    · obtain ⟨⟨r, _⟩, hr, rfl⟩ := map_eq_ok_iff.1 hdb
      rw [run, hr]
      exact ⟨rfl, rfl⟩
  | _ => exact ho.elim

/-! ## What can be looked up afterwards -/

/-- What an insert was given at a moment can be looked up, with all that belongs to it. -/
def Present (db : Database) (now : Moment) : Operation → Prop
  | .saveEntity e => ∃ e', e.KeptAs e' ∧ db.getEntity e.id = .ok (some e')
  | .saveRule r active =>
    ∃ t metadata, db.tables = some t ∧ documentFields r.metadata = .ok metadata ∧
      ⟨{ r with metadata }, active⟩ ∈ t.rules ∧
      (active = true → ∃ rules, db.getRulesByScope r.entityId r.scope = .ok rules ∧
        { r with metadata } ∈ rules)
  | .saveMeasure m => ∃ m', m.KeptAs m' ∧ db.getMeasure m.identifier m.version = .ok (some m')
  | .saveWorkflow w =>
    ∃ w', w.KeptAs w' ∧ db.getWorkflow w.id = .ok (some w') ∧
      ∀ u ∈ w'.transitions, db.getTransition u.id = .ok (some u)
  | .createRecord n => ∃ r, n.KeptAs now r ∧ db.getRecord n.entityId r.id = .ok (some r)
  | _ => True

theorem Adds.fits (h : o.Adds t now i) : i.Fits t := by
  cases h with
  | entity hid h =>
    intro x hx
    rw [Entity.stored_id h]
    exact hid x hx
  | rule hid _ => exact hid
  | measure _ hid hversion _ h =>
    have hkept := Measure.stored_keptAs h (keptUnder_idOr _ [])
    refine fun x hx => ⟨fun heq => ?_, hid x hx⟩
    obtain ⟨hi, hv⟩ := Prod.mk.inj heq
    exact hversion x hx (hi.trans hkept.identifier) (hv.trans hkept.version)
  | workflow hid hstates htransitions hnew h =>
    refine ⟨fun x hx => ?_, ?_, fun u hu => ?_, ?_, fun u hu x hx => ?_⟩
    · rw [Workflow.stored_id h]
      exact hid x hx
    · rwa [Workflow.stored_states h]
    · obtain ⟨v, -, metadata, rfl⟩ := Workflow.stored_mem h hu
      exact (Workflow.stored_id h).symm
    · exact (Workflow.stored_ids h).nodup_iff.2 htransitions
    · obtain ⟨v, hv, metadata, rfl⟩ := Workflow.stored_mem h hu
      exact hnew v hv x hx
  | record _ hid _ => exact ⟨hid, rfl⟩

/-- Every row that an insert adds is found under its key. -/
theorem Adds.present (h : o.Adds t now i) (hk : t.Keyed) (db : Database) :
    o.Present { db with tables := some (i.apply t) } now := by
  have hk' : (i.apply t).Keyed := Insert.keyed hk h.fits
  cases h with
  | @entity e e' _ h =>
    have hkept := Entity.stored_keptAs h
    refine ⟨e', hkept, Database.read_eq_ok_iff.2 ⟨_, rfl, ?_⟩⟩
    rw [(find?_key_eq_some_iff hk'.entities).2 ⟨List.mem_concat_self, hkept.id⟩]
  | @rule r active metadata _ h =>
    refine ⟨_, metadata, rfl, h, List.mem_concat_self, fun hactive => ?_⟩
    refine ⟨_, Database.read_eq_ok_iff.2 ⟨_, rfl, rfl⟩, List.mem_mergeSort.2 ?_⟩
    refine List.mem_filterMap.2 ⟨_, List.mem_concat_self, ?_⟩
    simp [hactive]
  | @measure m m' id hgiven _ _ hnarrow h =>
    have hkept := Measure.stored_keptAs h (hgiven ▸ keptUnder_idOr m.id _)
    refine ⟨_, hkept, Database.read_eq_ok_iff.2 ⟨_, rfl, ?_⟩⟩
    rw [if_neg (Bool.eq_false_iff.1 hnarrow), hk'.measure?_eq_some_iff.2
      ⟨List.mem_concat_self, hkept.identifier, hkept.version⟩]
  | @workflow w w' _ _ _ _ h =>
    have hkept := Workflow.stored_keptAs h
    refine ⟨w', hkept, Database.read_eq_ok_iff.2 ⟨_, rfl, ?_⟩, fun u hu => ?_⟩
    · rw [(find?_key_eq_some_iff hk'.workflows).2 ⟨List.mem_concat_self, hkept.id⟩]
    · have hmem : u ∈ Database.allTransitions (Insert.apply t (.workflow w')) :=
        List.mem_flatMap.2 ⟨w', List.mem_concat_self, hu⟩
      refine Database.read_eq_ok_iff.2 ⟨_, rfl, ?_⟩
      rw [(find?_key_eq_some_iff hk'.transitions).2 ⟨hmem, rfl⟩]
  | @record n data id hgiven _ h =>
    have hkept : n.KeptAs now { n.record id now with data } :=
      ⟨data, h, hgiven ▸ keptUnder_idOr n.id _, rfl⟩
    refine ⟨_, hkept, Database.read_eq_ok_iff.2 ⟨_, rfl, congrArg Except.ok ?_⟩⟩
    exact hk'.record?_eq_some_iff.2 ⟨List.mem_concat_self, rfl, rfl⟩

/-- What can be looked up does not change with an insert, whether it succeeds or not. -/
theorem IsInsert.keeps (ho : o.IsInsert) {s : System} (hk : s.database.Keyed) :
    s.database.Keeps (o.run s).2.database := by
  rcases ho.run_cases hk with ⟨e, -, hsame, -⟩ | ⟨db, -, hdb, t, i, ht, -, -, rfl⟩
  · rw [hsame]
    exact .refl _
  · rw [hdb]
    exact Insert.keeps t i ht

end Operation

/-! ## Runs -/

/-- What can be looked up does not change with any number of inserts. -/
theorem runAll_keeps {os : List Operation} (hos : ∀ o ∈ os, o.IsInsert) {s : System}
    (hk : s.database.Keyed) : s.database.Keeps (runAll s (os.map .operation)).2.database := by
  induction os generalizing s with
  | nil => exact .refl _
  | cons o rest ih =>
    have ho := hos o (List.mem_cons_self ..)
    have hnext : (o.run s).2.database.Keyed := by
      rcases ho.run_cases hk with ⟨e, -, hsame, -⟩ | ⟨db, -, hdb, t, i, ht, -, hadds, rfl⟩
      · rwa [hsame]
      · rw [hdb]
        intro u hu
        cases hu
        exact Insert.keyed (hk t ht) hadds.fits
    exact (ho.keeps hk).trans (ih (fun o hmem => hos o (List.mem_cons_of_mem _ hmem)) hnext)

/-- **Inserts are atomic and keep every key unique.**  In every reachable database no two rows share
a key, so a look-up has at most one candidate.  An insert succeeds exactly if nobody is writing, its
keys are not taken and the store has a form for its values; then it adds its row, and all that it
was given can be looked up.  If it fails, nothing changes.  However many inserts follow, what could
be looked up under a key is still what is found there. -/
theorem Reachable.inserts_atomic {s : System} {notes : List Note}
    (h : Reachable Step.Local s notes) :
    (∀ t ∈ s.database.tables, t.Keyed ∧ t.Unambiguous) ∧
      (∀ o : Operation, o.IsInsert →
        ((o.run s).1.failure? = none ↔ ∃ db, o.Extends s.now s.database db) ∧
        ((o.run s).1.failure? = none → o.Extends s.now s.database (o.run s).2.database ∧
          o.Present (o.run s).2.database s.now) ∧
        ∀ e, (o.run s).1.failure? = some e → (o.run s).2 = s) ∧
      ∀ os : List Operation, (∀ o ∈ os, o.IsInsert) →
        s.database.Keeps (runAll s (os.map .operation)).2.database := by
  have hk : s.database.Keyed := h.keyed fun _ hrequest => hrequest
  refine ⟨fun t ht => ⟨hk t ht, (hk t ht).unambiguous⟩, fun o ho => ?_,
    fun os hos => runAll_keeps hos hk⟩
  rcases ho.run_cases hk with ⟨e, he, hsame, hnone⟩ | ⟨db, hdone, hdb, hextends⟩
  · have hfails : (o.run s).1.failure? ≠ none := by
      rw [he]
      exact Option.some_ne_none e
    refine ⟨⟨fun hnot => absurd hnot hfails, ?_⟩, fun hnot => absurd hnot hfails, fun _ _ => hsame⟩
    rintro ⟨db, hdb⟩
    exact absurd hdb (hnone db)
  · rw [hdone, hdb]
    refine ⟨⟨fun _ => ⟨db, hextends⟩, fun _ => rfl⟩, fun _ => ⟨hextends, ?_⟩, fun e he => ?_⟩
    · obtain ⟨t, i, ht, -, hadds, rfl⟩ := hextends
      exact hadds.present (hk t ht) s.database
    · cases he

namespace Paper

/-- A workflow of its own, with a transition whose id is taken by the approval of papers. -/
def review : Workflow :=
  { id := "review", name := "Review", initialState := "OPEN"
    states := [Sample.state "OPEN" true false, Sample.state "DONE" false true]
    transitions :=
      [{ sign with id := "finish", fromState := "OPEN", toState := "DONE" },
       { sign with fromState := "DONE", toState := "OPEN" }]
    closed := by decide }

/-- An entity with a property. -/
def memo : Entity :=
  { id := "memo", name := "Memo", properties := [Sample.property "title" .string]
    workflowId := none, unique := by decide }

end Paper

/-- A second workflow with a transition of the first is refused as a whole; an entity is saved with
its property. -/
theorem inserts_atomic_review :
    (∃ e,
      ((Operation.saveWorkflow Paper.review).run (runAll {} Paper.setUp).2).1.failure? = some e) ∧
      ((Operation.saveWorkflow Paper.review).run (runAll {} Paper.setUp).2).2 =
        (runAll {} Paper.setUp).2 ∧
      (Operation.saveEntity Paper.memo).Present
        ((Operation.saveEntity Paper.memo).run (runAll {} Paper.setUp).2).2.database
        (runAll {} Paper.setUp).2.now := by
  have hreachable : Reachable Step.Local (runAll {} Paper.setUp).2 _ :=
    .of_run ⟨trivial, trivial, trivial, trivial, trivial, trivial⟩
  obtain ⟨-, hinserts, -⟩ := hreachable.inserts_atomic
  have hrefused : ((Operation.saveWorkflow Paper.review).run
      (runAll {} Paper.setUp).2).1.failure?.isSome = true := by decide +kernel
  have hdone : ((Operation.saveEntity Paper.memo).run
      (runAll {} Paper.setUp).2).1.failure?.isNone = true := by decide +kernel
  obtain ⟨e, he⟩ := Option.isSome_iff_exists.1 hrefused
  exact ⟨⟨e, he⟩, (hinserts (.saveWorkflow Paper.review) trivial).2.2 e he,
    ((hinserts (.saveEntity Paper.memo) trivial).2.1 (Option.isNone_iff_eq_none.1 hdone)).2⟩

end RecordRules
