import RecordRules.Proofs.Outcome
import RecordRules.Proofs.Store.Growth

/-!
# Saving definitions and creating records

Every operation of the store that succeeds adds one row whose keys are not taken
(`Database.Inserts`), and one that fails leaves no trace.  There is one inversion lemma for each of
them, `saveEntity_ok` to `assignRole_ok`.
-/

set_option autoImplicit false

namespace RecordRules
namespace Database

variable {α : Type} {db db' : Database}

theorem read_eq_ok_iff {operation : String} {table : Table} {query : Tables → Except Refusal α}
    {a : α} :
    db.read operation table query = .ok a ↔ ∃ t, db.tables = some t ∧ query t = .ok a := by
  rw [read, mapError_eq_ok_iff, bind_eq_ok_iff, rows]
  cases db.tables <;> simp

theorem change_eq_ok_iff {operation : String} {table : Table}
    {action : Tables → Except Refusal (α × Tables)} {a : α} :
    db.change operation table action = .ok (a, db') ↔
      ∃ t u, db.tables = some t ∧ db.locked = false ∧ action t = .ok (a, u) ∧
        db' = { db with tables := some u } := by
  rw [change, mapError_eq_ok_iff, rows]
  cases ht : db.tables with
  | none => simp
  | some t =>
    cases hl : db.locked with
    | true => simp
    | false =>
      simp only [ok_bind, Bool.false_eq_true, if_false, bind_eq_ok_iff, pure_eq_ok]
      constructor
      · rintro ⟨⟨b, u⟩, hu, h⟩
        cases h
        exact ⟨t, u, rfl, trivial, hu, rfl⟩
      · rintro ⟨_, u, ht, _, hu, rfl⟩
        cases ht
        exact ⟨(a, u), hu, rfl⟩

theorem write_eq_ok_iff {operation : String} {table : Table}
    {action : Tables → Except Refusal Tables} :
    db.write operation table action = .ok db' ↔
      ∃ t u, db.tables = some t ∧ db.locked = false ∧ action t = .ok u ∧
        db' = { db with tables := some u } := by
  rw [write, map_eq_ok_iff]
  simp only [Prod.exists, change_eq_ok_iff, bind_eq_ok_iff, pure_eq_ok]
  constructor
  · rintro ⟨_, _, ⟨t, u, ht, hl, ⟨_, hu, h⟩, rfl⟩, rfl⟩
    cases h
    exact ⟨t, u, ht, hl, hu, rfl⟩
  · rintro ⟨t, u, ht, hl, hu, rfl⟩
    exact ⟨(), _, ⟨t, u, ht, hl, ⟨u, hu, rfl⟩, rfl⟩, rfl⟩

/-- The second database is the first with one more row, whose keys were not taken; nobody was
writing to it. -/
def Inserts (db : Database) (i : Insert) (db' : Database) : Prop :=
  ∃ t, db.tables = some t ∧ db.locked = false ∧ i.Fits t ∧
    db' = { db with tables := some (i.apply t) }

end Database

/-! ## Rows as they are kept -/

theorem Entity.stored_id {e e' : Entity} (h : e.stored = .ok e') : e'.id = e.id := by
  rw [Entity.stored, bind_eq_ok_iff] at h
  obtain ⟨ps, -, h⟩ := h
  cases h
  rfl

/-- A transition is kept as it is, except that it belongs to the workflow that it is part of and
that its metadata is a document. -/
def Transition.KeptAs (t : Transition) (workflowId : String) (u : Transition) : Prop :=
  ∃ metadata, u = { t with workflowId, metadata }

theorem Transition.stored_keptAs {t : Transition} {workflowId : String}
    {u : { u : Transition // u.fromState = t.fromState ∧ u.toState = t.toState }}
    (h : t.stored workflowId = .ok u) : t.KeptAs workflowId u.1 := by
  rw [Transition.stored] at h
  split at h
  · obtain ⟨metadata, -, h⟩ := bind_eq_ok_iff.1 h
    cases h
    exact ⟨metadata, rfl⟩
  · cases h
    exact ⟨none, rfl⟩

theorem Transition.storedAll_keptAs {workflowId : String} {ts : List Transition}
    {us : { us : List Transition //
      ∀ u ∈ us, ∃ t ∈ ts, u.fromState = t.fromState ∧ u.toState = t.toState }}
    (h : Transition.storedAll workflowId ts = .ok us) :
    List.Forall₂ (fun t u => t.KeptAs workflowId u) ts us.1 := by
  induction ts with
  | nil => cases h; exact .nil
  | cons t rest ih =>
    rw [Transition.storedAll, bind_eq_ok_iff] at h
    obtain ⟨u, hu, h⟩ := h
    obtain ⟨vs, hvs, h⟩ := bind_eq_ok_iff.1 h
    cases h
    exact .cons (Transition.stored_keptAs hu) (ih hvs)

theorem Workflow.stored_id {w w' : Workflow} (h : w.stored = .ok w') : w'.id = w.id := by
  rw [Workflow.stored, bind_eq_ok_iff] at h
  obtain ⟨us, -, h⟩ := h
  cases h
  rfl

theorem Workflow.stored_states {w w' : Workflow} (h : w.stored = .ok w') :
    w'.states = w.states := by
  rw [Workflow.stored, bind_eq_ok_iff] at h
  obtain ⟨us, -, h⟩ := h
  cases h
  rfl

/-- A workflow is kept with the transitions it came with, in the order of their ids. -/
theorem Workflow.stored_transitions {w w' : Workflow} (h : w.stored = .ok w') :
    ∃ us, List.Forall₂ (fun t u => t.KeptAs w.id u) w.transitions us ∧ w'.transitions.Perm us := by
  rw [Workflow.stored, bind_eq_ok_iff] at h
  obtain ⟨us, hus, h⟩ := h
  cases h
  exact ⟨us.1, Transition.storedAll_keptAs hus, List.mergeSort_perm _ _⟩

/-- Every transition that is kept stems from one that the workflow came with. -/
theorem Workflow.stored_mem {w w' : Workflow} (h : w.stored = .ok w') {u : Transition}
    (hu : u ∈ w'.transitions) : ∃ t ∈ w.transitions, t.KeptAs w.id u := by
  obtain ⟨us, hall, hperm⟩ := Workflow.stored_transitions h
  obtain ⟨n, hn, rfl⟩ := List.getElem_of_mem (hperm.mem_iff.1 hu)
  have hlen := hall.length_eq
  exact ⟨_, List.getElem_mem (hlen ▸ hn), hall.get (hlen ▸ hn) hn⟩

theorem Transition.ids_of_keptAs {workflowId : String} {ts us : List Transition}
    (h : List.Forall₂ (fun t u => t.KeptAs workflowId u) ts us) :
    ts.map Transition.id = us.map Transition.id := by
  induction h with
  | nil => rfl
  | cons hkept _ ih =>
    obtain ⟨metadata, rfl⟩ := hkept
    rw [List.map_cons, List.map_cons, ih]

theorem Workflow.stored_ids {w w' : Workflow} (h : w.stored = .ok w') :
    (w'.transitions.map Transition.id).Perm (w.transitions.map Transition.id) := by
  obtain ⟨us, hall, hperm⟩ := Workflow.stored_transitions h
  rw [Transition.ids_of_keptAs hall]
  exact hperm.map _

/-! ## The operations -/

namespace Database

variable {db db' : Database}

theorem saveEntity_ok {e : Entity} (h : db.saveEntity e = .ok db') :
    ∃ e', e.stored = .ok e' ∧ db.Inserts (.entity e') db' := by
  obtain ⟨t, u, ht, hl, hu, rfl⟩ := write_eq_ok_iff.1 h
  split at hu
  · cases hu
  · rename_i hnew
    obtain ⟨e', he', hu⟩ := bind_eq_ok_iff.1 hu
    cases hu
    refine ⟨e', he', t, ht, hl, fun x hx hid => hnew ?_, rfl⟩
    exact List.any_eq_true.2 ⟨x, hx, by rw [hid, Entity.stored_id he', beq_self_eq_true]⟩

theorem saveRule_ok {r : Rule} {active : Bool} (h : db.saveRule r active = .ok db') :
    ∃ metadata, documentFields r.metadata = .ok metadata ∧
      db.Inserts (.rule ⟨{ r with metadata }, active⟩) db' := by
  rw [saveRule] at h
  split at h
  · cases h
  · rename_i metadata hm
    obtain ⟨t, u, ht, hl, hu, rfl⟩ := write_eq_ok_iff.1 h
    split at hu
    · cases hu
    · rename_i hnew
      cases hu
      refine ⟨metadata, hm, t, ht, hl, fun x hx hid => hnew ?_, rfl⟩
      exact List.any_eq_true.2 ⟨x, hx, beq_iff_eq.2 hid⟩

theorem saveMeasure_ok {m : Measure} (h : db.saveMeasure m = .ok db') :
    ∃ m' id, m.stored "" = .ok m' ∧ db.Inserts (.measure { m' with id := some id }) db' := by
  rw [saveMeasure] at h
  split at h
  · cases h
  · rename_i m' hm
    obtain ⟨t, u, ht, hl, hu, rfl⟩ := write_eq_ok_iff.1 h
    have hkept : m'.identifier = m.identifier ∧ m'.version = m.version := by
      rw [Measure.stored, bind_eq_ok_iff] at hm
      obtain ⟨ps, -, hm⟩ := hm
      cases hm
      exact ⟨rfl, rfl⟩
    split at hu
    · cases hu
    · split at hu
      · cases hu
      · rename_i hversion
        dsimp only at hu
        split at hu
        · cases hu
        · rename_i hid
          cases hu
          refine ⟨m', _, hm, t, ht, hl, fun x hx => ⟨fun heq => hversion ?_, fun heq => hid ?_⟩,
            rfl⟩
          · obtain ⟨hi, hv⟩ := Prod.mk.inj heq
            refine List.any_eq_true.2 ⟨x, hx, ?_⟩
            rw [hi, hv, hkept.1, hkept.2, beq_self_eq_true, beq_self_eq_true, Bool.and_true]
          · exact List.any_eq_true.2 ⟨x, hx, beq_iff_eq.2 heq⟩

theorem saveWorkflow_ok {w : Workflow} (h : db.saveWorkflow w = .ok db') :
    ∃ w', w.stored = .ok w' ∧ db.Inserts (.workflow w') db' := by
  obtain ⟨t, u, ht, hl, hu, rfl⟩ := write_eq_ok_iff.1 h
  split at hu
  · cases hu
  · rename_i hid
    split at hu
    · cases hu
    · rename_i hstates
      obtain ⟨w', hw', hu⟩ := bind_eq_ok_iff.1 hu
      dsimp only at hu
      split at hu
      · cases hu
      · rename_i hids
        cases hu
        rw [Option.not_isSome_iff_eq_none, repeated?_eq_none_iff] at hstates hids
        obtain ⟨-, hnd, hdisjoint⟩ := List.nodup_append.1 hids
        refine ⟨w', hw', t, ht, hl, ⟨fun x hx hxw => hid ?_, ?_, fun u hu => ?_, ?_, ?_⟩, rfl⟩
        · exact List.any_eq_true.2 ⟨x, hx, by rw [hxw, Workflow.stored_id hw', beq_self_eq_true]⟩
        · rwa [Workflow.stored_states hw']
        · obtain ⟨t, -, metadata, rfl⟩ := Workflow.stored_mem hw' hu
          exact (Workflow.stored_id hw').symm
        · exact (Workflow.stored_ids hw').nodup_iff.2 hnd
        · intro u hu x hx
          exact hdisjoint x.id (List.mem_map_of_mem hx) u.id
            ((Workflow.stored_ids hw').mem_iff.1 (List.mem_map_of_mem hu))

theorem createRecord_ok {n : NewRecord} {now : Moment} {r : Record}
    (h : db.createRecord now n = .ok (r, db')) :
    ∃ data, documentFields n.data = .ok data ∧ r = n.record r.id now ∧
      db.Inserts (.record { r with data }) db' := by
  rw [createRecord] at h
  split at h
  · cases h
  · rename_i data hdata
    obtain ⟨t, u, ht, hl, hu, rfl⟩ := change_eq_ok_iff.1 h
    dsimp only at hu
    split at hu
    · cases hu
    · rename_i hnew
      cases hu
      refine ⟨data, hdata, rfl, t, ht, hl, ⟨fun x hx hid => hnew ?_, rfl⟩, rfl⟩
      exact List.any_eq_true.2 ⟨x, hx, beq_iff_eq.2 hid⟩

theorem assignRole_ok {actor role : String} (h : db.assignRole actor role = .ok db') :
    db' = db ∨ db.Inserts (.grant actor role) db' := by
  rw [assignRole, bind_eq_ok_iff] at h
  obtain ⟨held, hread, h⟩ := h
  obtain ⟨t, ht, hheld⟩ := read_eq_ok_iff.1 hread
  cases hheld
  split at h
  · cases h
    exact Or.inl rfl
  · rename_i hnew
    obtain ⟨u, v, hu, hl, hv, rfl⟩ := write_eq_ok_iff.1 h
    rw [ht] at hu
    cases hu
    cases hv
    exact Or.inr ⟨t, ht, hl, fun hmem => hnew (List.contains_iff_mem.2 hmem), rfl⟩

end Database
end RecordRules
