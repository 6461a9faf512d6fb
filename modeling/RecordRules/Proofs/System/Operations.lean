import RecordRules.System.Operation
import RecordRules.Proofs.Store.Inserts

/-!
# What operations do to the database

* `Operation.Writes` lists the operations that can change the database, each with what it leaves
  behind; `Operation.run_cases` says that all others leave it alone, and that none touches the
  limits of expressions.
* `Operation.MayAdd` relates an operation to the rows that it adds, and `Operation.Writes.effect`
  says that an operation does nothing else, unless it makes or drops the tables themselves.
-/

set_option autoImplicit false

namespace RecordRules

/-! ## Limits -/

namespace Validation

theorem collect_limits {α : Type} {check : Checker → α → Option Issue × Checker}
    (hcheck : ∀ c a, (check c a).2.limits = c.limits) (items : List α) (c : Checker) :
    (collect check c items).2.limits = c.limits := by
  induction items generalizing c with
  | nil => rfl
  | cons a rest ih => exact (ih _).trans (hcheck c a)

theorem recordIssues_limits {db : Database} {checker checker' : Checker} {entityId : String}
    {data : Fields Value} {event : Option String} {previous : Option (Fields Value)}
    {issues : List Issue}
    (h : recordIssues db checker entityId data event previous = .ok (issues, checker')) :
    checker'.limits = checker.limits := by
  rw [recordIssues, bind_eq_ok_iff] at h
  obtain ⟨entity, -, h⟩ := h
  obtain ⟨rules, -, h⟩ := bind_eq_ok_iff.1 h
  obtain ⟨inRecord, -, h⟩ := bind_eq_ok_iff.1 h
  obtain ⟨acrossEntities, -, h⟩ := bind_eq_ok_iff.1 h
  cases h
  exact collect_limits (fun _ _ => rfl) _ _

theorem fieldIssues_limits {db : Database} {checker checker' : Checker}
    {entityId propertyName : String} {value : Value} {data : Fields Value} {issues : List Issue}
    (h : fieldIssues db checker entityId propertyName value data = .ok (issues, checker')) :
    checker'.limits = checker.limits := by
  rw [fieldIssues, bind_eq_ok_iff] at h
  obtain ⟨entity, -, h⟩ := h
  split at h
  · cases h
  · obtain ⟨rules, -, h⟩ := bind_eq_ok_iff.1 h
    have hissues := congrArg (fun found => found.2.limits) (Except.ok.inj h)
    exact hissues.symm.trans (collect_limits (fun _ _ => rfl) _ _)

end Validation

/-! ## Operations that write -/

namespace Operation

/-- An operation that succeeds in changing a database, and what it makes of it. -/
inductive Writes (db : Database) : Operation → Database → Prop
  | saveEntity {e : Entity} {db' : Database} (h : db.saveEntity e = .ok db') :
    Writes db (.saveEntity e) db'
  | saveRule {r : Rule} {active : Bool} {db' : Database} (h : db.saveRule r active = .ok db') :
    Writes db (.saveRule r active) db'
  | saveMeasure {m : Measure} {db' : Database} (h : db.saveMeasure m = .ok db') :
    Writes db (.saveMeasure m) db'
  | saveWorkflow {w : Workflow} {db' : Database} (h : db.saveWorkflow w = .ok db') :
    Writes db (.saveWorkflow w) db'
  | createRecord {n : NewRecord} {now : Moment} {r : Record} {db' : Database}
    (h : db.createRecord now n = .ok (r, db')) : Writes db (.createRecord n) db'
  | assignRole {actor role : String} {db' : Database} (h : db.assignRole actor role = .ok db') :
    Writes db (.assignRole actor role) db'
  | loadSample {now : Moment} : Writes db .loadSample (Sample.load db now).2
  | createTables {db' : Database} (h : db.createTables = .ok db') : Writes db .createTables db'
  | dropTables {db' : Database} (h : db.dropTables = .ok db') : Writes db .dropTables db'
  | migrate {db' : Database} (h : db.migrate = .ok db') : Writes db .migrate db'

variable {s : System} {db db' : Database} {o : Operation}

/-- An operation that yields a database or fails changes the system accordingly. -/
theorem changes_cases (s : System) (r : Result Database) :
    (changes s r).2 = s ∨ ∃ db, r = .ok db ∧ (changes s r).2 = s.withDatabase db := by
  cases r with
  | error e => exact Or.inl rfl
  | ok db => exact Or.inr ⟨db, rfl, rfl⟩

theorem checked_cases (s : System) (r : Result (List Issue × Validation.Checker)) :
    (s.checked r).2 = s ∨ ∃ issues checker, r = .ok (issues, checker) ∧
      (s.checked r).2 = { s with checker } := by
  cases r with
  | error e => exact Or.inl rfl
  | ok found => exact Or.inr ⟨found.1, found.2, rfl, rfl⟩

/-- **What an operation does to a system**, as far as the database and the limits of expressions
are concerned. -/
theorem run_cases (s : System) (o : Operation) :
    (o.run s).2.limits = s.limits ∧
      ((o.run s).2.database = s.database ∨ o.Writes s.database (o.run s).2.database) := by
  have hchanges : ∀ r : Result Database, (∀ db, r = .ok db → o.Writes s.database db) →
      (changes s r).2.limits = s.limits ∧ ((changes s r).2.database = s.database ∨
        o.Writes s.database (changes s r).2.database) := by
    intro r hwrites
    rcases changes_cases s r with h | ⟨db, hdb, h⟩ <;> rw [h]
    · exact ⟨rfl, Or.inl rfl⟩
    · exact ⟨rfl, Or.inr (hwrites db hdb)⟩
  have hsame : ∀ {u : System}, u.checker = s.checker → u.database = s.database →
      u.limits = s.limits ∧ (u.database = s.database ∨ o.Writes s.database u.database) :=
    fun hc hd => ⟨congrArg Validation.Checker.limits hc, Or.inl hd⟩
  cases o with
  | saveEntity e => exact hchanges _ fun _ => .saveEntity
  | saveRule r active => exact hchanges _ fun _ => .saveRule
  | saveMeasure m =>
    rw [run]
    split
    · rename_i db hdb
      exact ⟨rfl, Or.inr (.saveMeasure hdb)⟩
    · exact hsame rfl rfl
  | saveWorkflow w => exact hchanges _ fun _ => .saveWorkflow
  | createRecord n =>
    rw [run, System.created.eq_def]
    split
    · rename_i r db hdb
      exact ⟨rfl, Or.inr (.createRecord hdb)⟩
    · exact hsame rfl rfl
  | assignRole actor role => exact hchanges _ fun _ => .assignRole
  | loadSample => exact ⟨rfl, Or.inr .loadSample⟩
  | validateRecord entityId data event previous =>
    rcases checked_cases s (Validation.recordIssues s.database s.checker entityId data event
      previous) with h | ⟨issues, checker, hok, h⟩
    · rw [run, h]
      exact hsame rfl rfl
    · rw [run, h]
      exact ⟨Validation.recordIssues_limits hok, Or.inl rfl⟩
  | validateField entityId propertyName value data =>
    rcases checked_cases s (Validation.fieldIssues s.database s.checker entityId propertyName value
      data) with h | ⟨issues, checker, hok, h⟩
    · rw [run, h]
      exact hsame rfl rfl
    · rw [run, h]
      exact ⟨Validation.fieldIssues_limits hok, Or.inl rfl⟩
  | measure request cache => cases cache <;> exact hsame rfl rfl
  | measures requests cache => cases cache <;> exact hsame rfl rfl
  | createTables => exact hchanges _ fun _ => .createTables
  | dropTables => exact hchanges _ fun _ => .dropTables
  | migrate =>
    rw [run]
    split
    · rename_i db hdb
      exact ⟨rfl, Or.inr (.migrate hdb)⟩
    · exact hsame rfl rfl
  | _ => exact hsame rfl rfl

/-! ## Rows that are added -/

end Operation

namespace Database

/-- The second database is the first with some more rows, added one after the other. -/
inductive InsertsAll : Database → List Insert → Database → Prop
  | nil (db : Database) : InsertsAll db [] db
  | cons {db db₁ db' : Database} {i : Insert} {rest : List Insert} (h : db.Inserts i db₁)
    (hrest : InsertsAll db₁ rest db') : InsertsAll db (i :: rest) db'

theorem Inserts.all {db db' : Database} {i : Insert} (h : db.Inserts i db') :
    db.InsertsAll [i] db' := .cons h (.nil _)

theorem InsertsAll.append {db db₁ db' : Database} {is js : List Insert} (h : db.InsertsAll is db₁)
    (h' : db₁.InsertsAll js db') : db.InsertsAll (is ++ js) db' := by
  induction h with
  | nil _ => exact h'
  | cons hi _ ih => exact .cons hi (ih h')

end Database

namespace Sample

/-- The operations that make up the sample. -/
def operations : List Operation :=
  [.saveWorkflow workflow, .saveEntity invoice] ++ rules.map (.saveRule · true) ++
    [.saveMeasure discount, .createRecord record, .assignRole "manager" "approver"]

end Sample

namespace Operation

/-- What an operation is asked to add, and the row that it adds then: what has been given, in the
form in which the store keeps it. -/
inductive MayAdd : Operation → Insert → Prop
  | entity {e e' : Entity} (h : e.stored = .ok e') : MayAdd (.saveEntity e) (.entity e')
  | rule {r : Rule} {active : Bool} {metadata : Fields Value}
    (h : documentFields r.metadata = .ok metadata) :
    MayAdd (.saveRule r active) (.rule ⟨{ r with metadata }, active⟩)
  | measure {m m' : Measure} {id : String} (h : m.stored "" = .ok m') :
    MayAdd (.saveMeasure m) (.measure { m' with id := some id })
  | workflow {w w' : Workflow} (h : w.stored = .ok w') : MayAdd (.saveWorkflow w) (.workflow w')
  | record {n : NewRecord} {data : Fields Value} {id : String} {now : Moment}
    (h : documentFields n.data = .ok data) :
    MayAdd (.createRecord n) (.record { n.record id now with data })
  | role {actor role : String} : MayAdd (.assignRole actor role) (.grant actor role)
  | indexes : MayAdd .migrate .indexes
  | sample {o : Operation} {i : Insert} (ho : o ∈ Sample.operations) (h : MayAdd o i) :
    MayAdd .loadSample i

end Operation

namespace Sample

/-- Steps that each add rows of a kind add such rows together, also if one of them fails. -/
theorem runSteps_insertsAll {P : Insert → Prop} {steps : List (Database → Result Database)}
    (hsteps : ∀ step ∈ steps, ∀ db db', step db = .ok db' →
      ∃ is, (∀ i ∈ is, P i) ∧ db.InsertsAll is db')
    (db : Database) : ∃ is, (∀ i ∈ is, P i) ∧ db.InsertsAll is (runSteps steps db).2 := by
  induction steps generalizing db with
  | nil => exact ⟨[], List.forall_mem_nil _, .nil db⟩
  | cons step rest ih =>
    rw [runSteps]
    cases hstep : step db with
    | error e => exact ⟨[], List.forall_mem_nil _, .nil db⟩
    | ok changed =>
      obtain ⟨is, hPis, his⟩ := hsteps step (List.mem_cons_self ..) db changed hstep
      obtain ⟨js, hPjs, hjs⟩ :=
        ih (fun step hmem => hsteps step (List.mem_cons_of_mem _ hmem)) changed
      exact ⟨is ++ js, List.forall_mem_append.2 ⟨hPis, hPjs⟩, his.append hjs⟩

/-- Loading the sample adds rows that its operations may add. -/
theorem load_insertsAll (db : Database) (now : Moment) :
    ∃ is, (∀ i ∈ is, Operation.loadSample.MayAdd i) ∧ db.InsertsAll is (load db now).2 := by
  have hone : ∀ {db db' : Database} {o : Operation} {i : Insert}, o ∈ operations → o.MayAdd i →
      db.Inserts i db' →
      ∃ is, (∀ i ∈ is, Operation.loadSample.MayAdd i) ∧ db.InsertsAll is db' :=
    fun {_ _ _ i} ho hadd hi => ⟨[i], by simpa using .sample ho hadd, hi.all⟩
  rw [load]
  refine runSteps_insertsAll (fun step hstep db db' h => ?_) db
  simp only [steps, List.cons_append, List.nil_append, List.mem_cons, List.mem_append,
    List.mem_map, List.not_mem_nil, or_false] at hstep
  rcases hstep with rfl | rfl | ⟨r, hr, rfl⟩ | rfl | rfl | rfl
  · obtain ⟨w, hw, hi⟩ := Database.saveWorkflow_ok h
    exact hone (by simp [operations]) (.workflow hw) hi
  · obtain ⟨e, he, hi⟩ := Database.saveEntity_ok h
    exact hone (by simp [operations]) (.entity he) hi
  · obtain ⟨metadata, hm, hi⟩ := Database.saveRule_ok h
    exact hone (by simp [operations, hr]) (.rule hm) hi
  · obtain ⟨m, id, hm, hi⟩ := Database.saveMeasure_ok h
    exact hone (by simp [operations]) (.measure hm) hi
  · obtain ⟨⟨r, db₁⟩, hr, rfl⟩ := map_eq_ok_iff.1 h
    obtain ⟨data, hdata, hrecord, hi⟩ := Database.createRecord_ok hr
    rw [hrecord] at hi
    exact hone (by simp [operations]) (.record hdata) hi
  · rcases Database.assignRole_ok h with rfl | hi
    · exact ⟨[], List.forall_mem_nil _, .nil _⟩
    · exact hone (by simp [operations]) .role hi

end Sample

namespace Operation

/-- **What an operation that writes has done**: it has added rows that it was asked for, or it has
made or dropped the tables themselves, which it does only while nobody else is writing. -/
theorem Writes.effect {o : Operation} {db db' : Database} (h : o.Writes db db') :
    (∃ is, (∀ i ∈ is, o.MayAdd i) ∧ db.InsertsAll is db') ∨
      (o = .createTables ∧ db.tables = none ∧ db.locked = false ∧
        db' = { db with tables := some {} }) ∨
      (o = .dropTables ∧ db.tables.isSome ∧ db.locked = false ∧
        db' = { db with tables := none }) := by
  have hnone : ∀ {o : Operation} {db : Database}, ∃ is, (∀ i ∈ is, o.MayAdd i) ∧
      db.InsertsAll is db := ⟨[], List.forall_mem_nil _, .nil _⟩
  have hone : ∀ {o : Operation} {db db' : Database} {i : Insert}, o.MayAdd i → db.Inserts i db' →
      ∃ is, (∀ i ∈ is, o.MayAdd i) ∧ db.InsertsAll is db' :=
    fun {_ _ _ i} hadd hi => ⟨[i], by simpa using hadd, hi.all⟩
  cases h with
  | saveEntity h =>
    obtain ⟨e', he, hi⟩ := Database.saveEntity_ok h
    exact Or.inl (hone (.entity he) hi)
  | saveRule h =>
    obtain ⟨metadata, hm, hi⟩ := Database.saveRule_ok h
    exact Or.inl (hone (.rule hm) hi)
  | saveMeasure h =>
    obtain ⟨m', id, hm, hi⟩ := Database.saveMeasure_ok h
    exact Or.inl (hone (.measure hm) hi)
  | saveWorkflow h =>
    obtain ⟨w', hw, hi⟩ := Database.saveWorkflow_ok h
    exact Or.inl (hone (.workflow hw) hi)
  | createRecord h =>
    obtain ⟨data, hdata, hr, hi⟩ := Database.createRecord_ok h
    rw [hr] at hi
    exact Or.inl (hone (.record hdata) hi)
  | assignRole h =>
    rcases Database.assignRole_ok h with rfl | hi
    · exact Or.inl hnone
    · exact Or.inl (hone .role hi)
  | loadSample =>
    exact Or.inl (Sample.load_insertsAll db _)
  | createTables h =>
    rw [Database.createTables] at h
    split at h
    · cases h
      exact Or.inl hnone
    · rename_i ht
      split at h
      · cases h
      · rename_i hl
        cases h
        exact Or.inr (Or.inl ⟨rfl, ht, Bool.eq_false_iff.2 hl, rfl⟩)
  | dropTables h =>
    rw [Database.dropTables] at h
    split at h
    · cases h
      exact Or.inl hnone
    · rename_i t ht
      split at h
      · cases h
      · rename_i hl
        cases h
        exact Or.inr (Or.inr ⟨rfl, by rw [ht]; rfl, Bool.eq_false_iff.2 hl, rfl⟩)
  | migrate h =>
    rw [Database.migrate] at h
    split at h
    · cases h
    · rename_i t ht
      split at h
      · cases h
        exact Or.inl hnone
      · split at h
        · cases h
        · rename_i hl
          cases h
          exact Or.inl (hone .indexes
            ⟨t, ht, Bool.eq_false_iff.2 hl, trivial, rfl⟩)

end Operation
end RecordRules
