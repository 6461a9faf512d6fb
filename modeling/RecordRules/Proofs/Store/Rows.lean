import RecordRules.Proofs.Store.Inserts

/-!
# Rows and look-ups

What is saved is kept as it was given, except that values become documents, and every look-up has at
most one row to find.

* `Entity.KeptAs`, `Measure.KeptAs`, `Workflow.KeptAs` and `NewRecord.KeptAs` relate what is given
  to its row, down to properties, parameters and transitions.
* `Tables.Unambiguous`: under every key there is at most one row.
* `Database.Keeps`: whatever one database finds under a key, the other one finds there too.  Adding
  a row keeps all of that (`Insert.keeps`), since rows are added at the end of their tables.
-/

set_option autoImplicit false

namespace RecordRules

/-! ## Rows as they were given -/

/-- A property is kept as it is, with its metadata as a document. -/
def Property.KeptAs (p q : Property) : Prop :=
  ∃ metadata, documentFields p.metadata = .ok metadata ∧ q = { p with metadata }

theorem Property.storedAll_keptAs {ps : List Property}
    {qs : { qs : List Property // qs.map Property.name = ps.map Property.name }}
    (h : Property.storedAll ps = .ok qs) : List.Forall₂ Property.KeptAs ps qs.1 := by
  induction ps with
  | nil => cases h; exact .nil
  | cons p rest ih =>
    rw [Property.storedAll, bind_eq_ok_iff] at h
    obtain ⟨q, hq, h⟩ := h
    obtain ⟨others, hothers, h⟩ := bind_eq_ok_iff.1 h
    cases h
    rw [Property.stored, bind_eq_ok_iff] at hq
    obtain ⟨metadata, hmetadata, hq⟩ := hq
    cases hq
    exact .cons ⟨metadata, hmetadata, rfl⟩ (ih hothers)

/-- An entity is kept with all of its properties, in their order. -/
structure Entity.KeptAs (e e' : Entity) : Prop where
  id : e'.id = e.id
  name : e'.name = e.name
  workflowId : e'.workflowId = e.workflowId
  properties : List.Forall₂ Property.KeptAs e.properties e'.properties

theorem Entity.stored_keptAs {e e' : Entity} (h : e.stored = .ok e') : e.KeptAs e' := by
  rw [Entity.stored, bind_eq_ok_iff] at h
  obtain ⟨qs, hqs, h⟩ := h
  cases h
  exact ⟨rfl, rfl, rfl, Property.storedAll_keptAs hqs⟩

/-- A parameter is kept as it is, with its default as a document. -/
def Parameter.KeptAs (p q : Parameter) : Prop :=
  ∃ default, p.default.plain.document = .ok default ∧ q = { p with default }

theorem Parameter.storedAll_keptAs {ps : List Parameter}
    {qs : { qs : List Parameter // qs.map Parameter.name = ps.map Parameter.name }}
    (h : Parameter.storedAll ps = .ok qs) : List.Forall₂ Parameter.KeptAs ps qs.1 := by
  induction ps with
  | nil => cases h; exact .nil
  | cons p rest ih =>
    rw [Parameter.storedAll, bind_eq_ok_iff] at h
    obtain ⟨q, hq, h⟩ := h
    obtain ⟨others, hothers, h⟩ := bind_eq_ok_iff.1 h
    cases h
    rw [Parameter.stored, bind_eq_ok_iff] at hq
    obtain ⟨default, hdefault, hq⟩ := hq
    cases hq
    exact .cons ⟨default, hdefault, rfl⟩ (ih hothers)

/-- Something is kept under the id that was given, or under another one if that is missing or
empty. -/
def KeptUnder (given : Option String) (id : String) : Prop := ∀ x, given = some x → x ≠ "" → id = x

theorem keptUnder_idOr (given : Option String) (taken : List String) :
    KeptUnder given (idOr given taken) := by
  rintro x rfl hne
  rw [idOr, if_neg (mt String.isEmpty_iff.1 hne)]

/-- A measure is kept with all of its parameters, in their order. -/
structure Measure.KeptAs (m m' : Measure) : Prop where
  id : ∃ id, m'.id = some id ∧ KeptUnder m.id id
  identifier : m'.identifier = m.identifier
  version : m'.version = m.version
  name : m'.name = m.name
  description : m'.description = m.description
  expression : m'.expression = m.expression
  returnType : m'.returnType = m.returnType
  parameters : List.Forall₂ Parameter.KeptAs m.parameters m'.parameters

theorem Measure.stored_keptAs {m m' : Measure} (h : m.stored "" = .ok m') {id : String}
    (hid : KeptUnder m.id id) : m.KeptAs { m' with id := some id } := by
  rw [Measure.stored, bind_eq_ok_iff] at h
  obtain ⟨qs, hqs, h⟩ := h
  cases h
  exact ⟨⟨id, rfl, hid⟩, rfl, rfl, rfl, rfl, rfl, rfl, Parameter.storedAll_keptAs hqs⟩

/-- A transition is kept as part of its workflow, with its metadata as a document. -/
structure Transition.KeptWith (workflowId : String) (t u : Transition) : Prop where
  same : t.KeptAs workflowId u
  metadata : Option.Rel (fun fields kept => documentFields fields = .ok kept) t.metadata u.metadata

theorem Transition.stored_keptWith {t : Transition} {workflowId : String}
    {u : { u : Transition // u.fromState = t.fromState ∧ u.toState = t.toState }}
    (h : t.stored workflowId = .ok u) : t.KeptWith workflowId u.1 := by
  refine ⟨Transition.stored_keptAs h, ?_⟩
  rw [Transition.stored] at h
  split at h
  · rename_i fields hfields
    obtain ⟨metadata, hmetadata, h⟩ := bind_eq_ok_iff.1 h
    obtain ⟨kept, hkept, rfl⟩ := map_eq_ok_iff.1 hmetadata
    cases h
    rw [hfields]
    exact .some hkept
  · rename_i hnone
    cases h
    rw [hnone]
    exact .none

theorem Transition.storedAll_keptWith {workflowId : String} {ts : List Transition}
    {us : { us : List Transition //
      ∀ u ∈ us, ∃ t ∈ ts, u.fromState = t.fromState ∧ u.toState = t.toState }}
    (h : Transition.storedAll workflowId ts = .ok us) :
    List.Forall₂ (Transition.KeptWith workflowId) ts us.1 := by
  induction ts with
  | nil => cases h; exact .nil
  | cons t rest ih =>
    rw [Transition.storedAll, bind_eq_ok_iff] at h
    obtain ⟨u, hu, h⟩ := h
    obtain ⟨others, hothers, h⟩ := bind_eq_ok_iff.1 h
    cases h
    exact .cons (Transition.stored_keptWith hu) (ih hothers)

/-- A workflow is kept with its states and with all of its transitions, the latter in the order of
their ids. -/
structure Workflow.KeptAs (w w' : Workflow) : Prop where
  id : w'.id = w.id
  name : w'.name = w.name
  initialState : w'.initialState = w.initialState
  states : w'.states = w.states
  transitions : ∃ us, List.Forall₂ (Transition.KeptWith w.id) w.transitions us ∧
    w'.transitions.Perm us

theorem Workflow.stored_keptAs {w w' : Workflow} (h : w.stored = .ok w') : w.KeptAs w' := by
  rw [Workflow.stored, bind_eq_ok_iff] at h
  obtain ⟨us, hus, h⟩ := h
  cases h
  exact ⟨rfl, rfl, rfl, rfl, us.1, Transition.storedAll_keptWith hus, List.mergeSort_perm _ _⟩

/-- A record is kept as it is created at a moment, with its data as a document. -/
def NewRecord.KeptAs (n : NewRecord) (now : Moment) (r : Record) : Prop :=
  ∃ data, documentFields n.data = .ok data ∧ KeptUnder n.id r.id ∧
    r = { n.record r.id now with data }

/-! ## One row for a key -/

theorem length_filter_key_le_one {α κ : Type} [DecidableEq κ] {f : α → κ} {l : List α}
    (h : (l.map f).Nodup) (k : κ) : (l.filter fun x => f x == k).length ≤ 1 := by
  have hcount := List.nodup_iff_count_le_one.1 h k
  rwa [List.count, List.countP_map, List.countP_eq_length_filter] at hcount

/-- Under every key that is looked up there is at most one row. -/
structure Tables.Unambiguous (t : Tables) : Prop where
  entity : ∀ id, (t.entities.filter fun e => e.id == id).length ≤ 1
  workflow : ∀ id, (t.workflows.filter fun w => w.id == id).length ≤ 1
  transition : ∀ id, ((Database.allTransitions t).filter fun u => u.id == id).length ≤ 1
  measure : ∀ identifier version,
    (t.measures.filter fun m => m.identifier == identifier && m.version == version).length ≤ 1
  record : ∀ entityId recordId,
    (t.records.filter fun r => r.entityId == entityId && r.id == recordId).length ≤ 1

theorem Measure.beq_version [BEq (String × Int)] [LawfulBEq (String × Int)] (m : Measure)
    (identifier : String) (version : Int) :
    ((m.identifier, m.version) == (identifier, version)) =
      (m.identifier == identifier && m.version == version) := by
  rw [Bool.eq_iff_iff, beq_iff_eq, Prod.mk.injEq, Bool.and_eq_true, beq_iff_eq, beq_iff_eq]

theorem Tables.Keyed.unambiguous {t : Tables} (h : t.Keyed) : t.Unambiguous := by
  constructor
  · exact length_filter_key_le_one h.entities
  · exact length_filter_key_le_one h.workflows
  · exact length_filter_key_le_one h.transitions
  · intro identifier version
    have hversion := length_filter_key_le_one h.versions (identifier, version)
    simpa only [Measure.beq_version] using hversion
  · intro entityId recordId
    -- the id alone is a key already
    have hrecord := length_filter_key_le_one h.records recordId
    rw [← List.filter_filter]
    exact Nat.le_trans (List.length_filter_le _ _) hrecord

theorem Tables.Keyed.measure?_eq_some_iff {t : Tables} (h : t.Keyed) {identifier : String}
    {version : Int} {m : Measure} :
    (t.measures.find? fun x => x.identifier == identifier && x.version == version) = some m ↔
      m ∈ t.measures ∧ m.identifier = identifier ∧ m.version = version := by
  have hfound := find?_key_eq_some_iff h.versions (k := (identifier, version)) (a := m)
  simpa only [Measure.beq_version, Prod.mk.injEq] using hfound

/-! ## What is found stays found -/

namespace Database

/-- What is found under a key in the first database is found there in the second one. -/
structure Keeps (db db' : Database) : Prop where
  entity : ∀ id e, db.getEntity id = .ok (some e) → db'.getEntity id = .ok (some e)
  workflow : ∀ id w, db.getWorkflow id = .ok (some w) → db'.getWorkflow id = .ok (some w)
  transition : ∀ id u, db.getTransition id = .ok (some u) → db'.getTransition id = .ok (some u)
  measure : ∀ identifier version m, db.getMeasure identifier version = .ok (some m) →
    db'.getMeasure identifier version = .ok (some m)
  record : ∀ entityId recordId r, db.getRecord entityId recordId = .ok (some r) →
    db'.getRecord entityId recordId = .ok (some r)

theorem Keeps.refl (db : Database) : db.Keeps db :=
  ⟨fun _ _ => id, fun _ _ => id, fun _ _ => id, fun _ _ _ => id, fun _ _ _ => id⟩

theorem Keeps.trans {db db₁ db' : Database} (h : db.Keeps db₁) (h' : db₁.Keeps db') :
    db.Keeps db' where
  entity id e he := h'.entity id e (h.entity id e he)
  workflow id w hw := h'.workflow id w (h.workflow id w hw)
  transition id u hu := h'.transition id u (h.transition id u hu)
  measure identifier version m hm := h'.measure identifier version m (h.measure _ _ m hm)
  record entityId recordId r hr := h'.record entityId recordId r (h.record _ _ r hr)

/-- The first row with some property stays the first one if rows are added behind it. -/
theorem read_find?_of_prefix {α : Type} {db : Database} {t u : Tables} (ht : db.tables = some t)
    {operation : String} {table : Table} {p : α → Bool} {a : α} (rows : Tables → List α)
    (hrows : rows t <+: rows u)
    (h : db.read operation table (fun t => .ok ((rows t).find? p)) = .ok (some a)) :
    Database.read { db with tables := some u } operation table
      (fun t => .ok ((rows t).find? p)) = .ok (some a) := by
  obtain ⟨v, hv, h⟩ := read_eq_ok_iff.1 h
  rw [ht] at hv
  cases hv
  refine read_eq_ok_iff.2 ⟨_, rfl, ?_⟩
  rw [hrows.find?_eq_some (Except.ok.inj h)]

end Database

namespace Insert

variable (t : Tables) (i : Insert)

theorem records_prefix : t.records <+: (i.apply t).records := by
  cases i with
  | record r => exact List.prefix_append _ _
  | _ => exact List.prefix_rfl

theorem allTransitions_prefix :
    Database.allTransitions t <+: Database.allTransitions (i.apply t) := by
  obtain ⟨more, hmore⟩ := (i.grows t).workflows
  rw [Database.allTransitions, Database.allTransitions, ← hmore, List.flatMap_append]
  exact List.prefix_append _ _

/-- A row at the end of its table hides none of the rows before it. -/
theorem keeps {db : Database} (ht : db.tables = some t) :
    db.Keeps { db with tables := some (i.apply t) } := by
  constructor
  · exact fun id e => Database.read_find?_of_prefix ht Tables.entities (i.grows t).entities
  · exact fun id w => Database.read_find?_of_prefix ht Tables.workflows (i.grows t).workflows
  · exact fun id u =>
      Database.read_find?_of_prefix ht Database.allTransitions (i.allTransitions_prefix t)
  · intro identifier version m h
    obtain ⟨u, hu, h⟩ := Database.read_eq_ok_iff.1 h
    rw [ht] at hu
    cases hu
    refine Database.read_eq_ok_iff.2 ⟨_, rfl, ?_⟩
    split at h
    · cases h
    · rename_i hnarrow
      rw [if_neg hnarrow, (i.grows t).measures.find?_eq_some (Except.ok.inj h)]
  · exact fun entityId recordId r =>
      Database.read_find?_of_prefix ht Tables.records (i.records_prefix t)

end Insert
end RecordRules
