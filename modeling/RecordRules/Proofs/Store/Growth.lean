import RecordRules.Proofs.Store.Keys

/-!
# How the tables grow

Rows are added and never removed, and of a row that is there only the state of a record, its last
writer, the moment of the last write and the version change.

* `Record.Precedes`: one record is an earlier form of another; only the version tells how much has
  happened between them.
* `Tables.Grows`: the tables have grown in this way.
* `Insert` is a row that is added, and `Insert.keyed` and `Insert.grows` are what adding it means
  for the keys and for the rows that were there.
* `Tables.save` gives a record a new state, which is its next version.
-/

set_option autoImplicit false

namespace RecordRules

/-! ## Records over time -/

namespace Record

/-- The first record is an earlier form of the second, or the same one if no version lies between
them. -/
structure Precedes (r s : Record) : Prop where
  id : s.id = r.id
  entityId : s.entityId = r.entityId
  data : s.data = r.data
  version : r.version ≤ s.version
  same : s.version = r.version → s = r

theorem Precedes.refl (r : Record) : r.Precedes r := ⟨rfl, rfl, rfl, Int.le_refl _, fun _ => rfl⟩

theorem Precedes.trans {r s u : Record} (h : r.Precedes s) (h' : s.Precedes u) : r.Precedes u := by
  refine ⟨h'.id.trans h.id, h'.entityId.trans h.entityId, h'.data.trans h.data,
    Int.le_trans h.version h'.version, fun hv => ?_⟩
  have hs : s.version = r.version := Int.le_antisymm (hv ▸ h'.version) h.version
  exact (h'.same (hv.trans hs.symm)).trans (h.same hs)

/-- The record in a new state, written by an actor at a moment: the next version. -/
def saved (r : Record) (state : String) (actor : Option String) (savedAt : Moment) : Record :=
  { r with state := some state, updatedBy := actor, updatedAt := some savedAt,
           version := r.version + 1 }

section Saved

variable (r : Record) (state : String) (actor : Option String) (savedAt : Moment)

@[simp] theorem saved_id : (r.saved state actor savedAt).id = r.id := rfl

@[simp] theorem saved_entityId : (r.saved state actor savedAt).entityId = r.entityId := rfl

@[simp] theorem saved_data : (r.saved state actor savedAt).data = r.data := rfl

@[simp] theorem saved_version : (r.saved state actor savedAt).version = r.version + 1 := rfl

theorem precedes_saved : r.Precedes (r.saved state actor savedAt) := by
  refine ⟨rfl, rfl, rfl, ?_, fun h => ?_⟩ <;> rw [saved_version] at * <;> omega

end Saved

end Record

namespace Tables

/-! ## Growth -/

/-- The second tables have all rows of the first: those of records perhaps in a later form, all
others in their old place. -/
structure Grows (t u : Tables) : Prop where
  entities : t.entities <+: u.entities
  rules : t.rules <+: u.rules
  measures : t.measures <+: u.measures
  workflows : t.workflows <+: u.workflows
  records : ∀ r ∈ t.records, ∃ s ∈ u.records, r.Precedes s
  audit : t.audit <+: u.audit
  roles : t.roles <+: u.roles

theorem Grows.refl (t : Tables) : t.Grows t :=
  ⟨List.prefix_rfl, List.prefix_rfl, List.prefix_rfl, List.prefix_rfl,
    fun r hr => ⟨r, hr, .refl r⟩, List.prefix_rfl, List.prefix_rfl⟩

theorem Grows.trans {t u v : Tables} (h : t.Grows u) (h' : u.Grows v) : t.Grows v := by
  refine ⟨h.entities.trans h'.entities, h.rules.trans h'.rules, h.measures.trans h'.measures,
    h.workflows.trans h'.workflows, fun r hr => ?_, h.audit.trans h'.audit,
    h.roles.trans h'.roles⟩
  obtain ⟨s, hs, hrs⟩ := h.records r hr
  obtain ⟨x, hx, hsx⟩ := h'.records s hs
  exact ⟨x, hx, hrs.trans hsx⟩

/-- A record that still has the version it had before has not changed at all. -/
theorem Grows.eq_of_version {t u : Tables} (h : t.Grows u) (hu : u.Keyed) {r s : Record}
    (hr : r ∈ t.records) (hs : s ∈ u.records) (hid : s.id = r.id)
    (hversion : s.version = r.version) : s = r := by
  obtain ⟨x, hx, hrx⟩ := h.records r hr
  have hxs : x = s := List.inj_on_of_nodup_map hu.records hx hs (hrx.id.trans hid.symm)
  exact hxs ▸ hrx.same (hxs ▸ hversion)

/-! ## New states of records -/

/-- The tables with a record in a new state. -/
def save (t : Tables) (recordId state : String) (actor : Option String) (savedAt : Moment) :
    Tables :=
  { t with
    records := t.records.map fun r => if r.id == recordId then r.saved state actor savedAt else r }

/-- The tables with one more audit entry. -/
def addEntry (t : Tables) (a : AuditEntry) : Tables := { t with audit := t.audit ++ [a] }

section Save

variable (t : Tables) (recordId state : String) (actor : Option String) (savedAt : Moment)

theorem save_ids :
    (t.save recordId state actor savedAt).records.map Record.id = t.records.map Record.id := by
  rw [save, List.map_map]
  refine List.map_congr_left fun r _ => ?_
  rw [Function.comp_apply]
  split <;> rfl

theorem Keyed.save {t : Tables} (h : t.Keyed) : (t.save recordId state actor savedAt).Keyed :=
  { h with records := by rw [save_ids]; exact h.records }

theorem grows_save : t.Grows (t.save recordId state actor savedAt) := by
  refine { Grows.refl t with records := fun r hr => ⟨_, List.mem_map_of_mem hr, ?_⟩ }
  split
  · exact r.precedes_saved state actor savedAt
  · exact .refl r

end Save

theorem Keyed.addEntry {t : Tables} (h : t.Keyed) {a : AuditEntry}
    (hnew : ∀ x ∈ t.audit, x.id ≠ a.id) : (t.addEntry a).Keyed :=
  { h with audit := nodup_map_concat h.audit hnew }

theorem grows_addEntry (t : Tables) (a : AuditEntry) : t.Grows (t.addEntry a) :=
  { Grows.refl t with audit := List.prefix_append _ _ }

end Tables

/-! ## New rows -/

/-- A row that is added to the tables, or the indexes for look-ups that are. -/
inductive Insert where
  | entity (entity : Entity)
  | rule (rule : StoredRule)
  | measure (measure : Measure)
  | workflow (workflow : Workflow)
  | record (record : Record)
  | grant (actor role : String)
  | indexes

namespace Insert

/-- The tables with the row at the end of its table. -/
def apply (t : Tables) : Insert → Tables
  | .entity e => { t with entities := t.entities ++ [e] }
  | .rule r => { t with rules := t.rules ++ [r] }
  | .measure m => { t with measures := t.measures ++ [m] }
  | .workflow w => { t with workflows := t.workflows ++ [w] }
  | .record r => { t with records := t.records ++ [r] }
  | .grant actor role => { t with roles := t.roles ++ [(actor, role)] }
  | .indexes => { t with lookupIndexes := true }

/-- The keys of the row are not taken, and what it consists of has keys of its own. -/
def Fits (t : Tables) : Insert → Prop
  | .entity e => ∀ x ∈ t.entities, x.id ≠ e.id
  | .rule r => ∀ x ∈ t.rules, x.rule.id ≠ r.rule.id
  | .measure m =>
    ∀ x ∈ t.measures, (x.identifier, x.version) ≠ (m.identifier, m.version) ∧ x.id ≠ m.id
  | .workflow w =>
    (∀ x ∈ t.workflows, x.id ≠ w.id) ∧ (w.states.map WorkflowState.name).Nodup ∧
      (∀ u ∈ w.transitions, u.workflowId = w.id) ∧ (w.transitions.map Transition.id).Nodup ∧
      ∀ u ∈ w.transitions, ∀ x ∈ Database.allTransitions t, x.id ≠ u.id
  | .record r => (∀ x ∈ t.records, x.id ≠ r.id) ∧ r.version = 1
  | .grant actor role => (actor, role) ∉ t.roles
  | .indexes => True

/-- A row with new keys leaves no two rows with the same one. -/
theorem keyed {t : Tables} (h : t.Keyed) {i : Insert} (hi : i.Fits t) : (i.apply t).Keyed := by
  cases i with
  | entity e => exact { h with entities := nodup_map_concat h.entities hi }
  | rule r => exact { h with rules := nodup_map_concat h.rules hi }
  | measure m =>
    exact { h with
      measures := nodup_map_concat h.measures fun x hx => (hi x hx).2
      versions := nodup_map_concat h.versions fun x hx => (hi x hx).1 }
  | workflow w =>
    obtain ⟨hid, hstates, howned, hnd, hnew⟩ := hi
    refine { h with workflows := nodup_map_concat h.workflows hid, states := ?_, transitions := ?_,
                    owned := ?_ }
    · intro x hx
      rcases List.mem_append.1 hx with hx | hx
      · exact h.states x hx
      · rw [List.mem_singleton.1 hx]; exact hstates
    · rw [apply, Database.allTransitions, List.flatMap_append, List.flatMap_singleton]
      exact nodup_map_append h.transitions hnd hnew
    · intro x hx
      rcases List.mem_append.1 hx with hx | hx
      · exact h.owned x hx
      · rw [List.mem_singleton.1 hx]; exact howned
  | record r => exact { h with records := nodup_map_concat h.records hi.1 }
  | grant actor role =>
    refine { h with roles := ?_ }
    have hroles : ((t.roles ++ [(actor, role)]).map id).Nodup :=
      nodup_map_concat (by rw [List.map_id]; exact h.roles) fun x hx (hxr : x = (actor, role)) =>
        hi (hxr ▸ hx)
    rwa [List.map_id] at hroles
  | indexes => exact { h with }

theorem grows (t : Tables) (i : Insert) : t.Grows (i.apply t) := by
  have h := Tables.Grows.refl t
  cases i with
  | entity e => exact { h with entities := List.prefix_append _ _ }
  | rule r => exact { h with rules := List.prefix_append _ _ }
  | measure m => exact { h with measures := List.prefix_append _ _ }
  | workflow w => exact { h with workflows := List.prefix_append _ _ }
  | record r =>
    exact { h with records := fun x hx => ⟨x, List.mem_append_left _ hx, .refl x⟩ }
  | grant actor role => exact { h with roles := List.prefix_append _ _ }
  | indexes => exact { h with }

end Insert
end RecordRules
