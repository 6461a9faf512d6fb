import Mathlib.Algebra.Group.Nat.Defs
import Mathlib.Data.List.Nodup
import Mathlib.Data.List.Perm.Subperm
import Mathlib.Data.List.Basic
import RecordRules.Store.Transaction

/-!
# Keys of the tables

Every table has a key, and no two rows share one.

* `freshId_not_mem`: an id that the store makes up is not taken, however many there are.
* `find?_key_eq_some_iff`: where keys are unique, the look-up of a key finds the one row that has
  it.
* `Tables.Keyed` says that the keys of all tables are unique, and that every workflow owns its
  transitions.
-/

set_option autoImplicit false

namespace RecordRules

/-! ## Ids made up by the store -/

theorem Text.length_hexDigits (width n : Nat) : (Text.hexDigits width n).length = width := by
  induction width generalizing n with
  | zero => rfl
  | succ width ih => rw [Text.hexDigits, List.length_append, ih, List.length_singleton]

theorem Text.hexDigit_inj {a b : Nat} (ha : a < 16) (hb : b < 16)
    (h : Text.hexDigit a = Text.hexDigit b) : a = b := by
  have key : ∀ x < 16, ∀ y < 16, Text.hexDigit x = Text.hexDigit y → x = y := by decide
  exact key a ha b hb h

/-- Enough digits tell two numbers apart. -/
theorem Text.hexDigits_inj {width n m : Nat} (hn : n < 16 ^ width) (hm : m < 16 ^ width)
    (h : Text.hexDigits width n = Text.hexDigits width m) : n = m := by
  induction width generalizing n m with
  | zero => rw [Nat.pow_zero, Nat.lt_one_iff] at hn hm; rw [hn, hm]
  | succ width ih =>
    rw [Text.hexDigits, Text.hexDigits] at h
    obtain ⟨front, last⟩ := List.append_inj' h rfl
    have hdiv : n / 16 = m / 16 :=
      ih (Nat.div_lt_of_lt_mul (by rwa [Nat.pow_succ'] at hn))
        (Nat.div_lt_of_lt_mul (by rwa [Nat.pow_succ'] at hm)) front
    have hmod : n % 16 = m % 16 :=
      Text.hexDigit_inj (Nat.mod_lt n (by decide)) (Nat.mod_lt m (by decide))
        (List.singleton_inj.1 last)
    omega

/-- A number fits into `width` digits and one more for each time it exceeds them. -/
theorem lt_pow_add_div (width n : Nat) : n < 16 ^ (width + n / 16 ^ width) := by
  have hpos : 0 < 16 ^ width := Nat.pow_pos (by decide)
  have hq : n / 16 ^ width < 16 ^ (n / 16 ^ width) := Nat.lt_pow_self (by decide)
  calc
    n < 16 ^ width * (n / 16 ^ width + 1) := Nat.lt_mul_div_succ n hpos
    _ ≤ 16 ^ width * 16 ^ (n / 16 ^ width) := Nat.mul_le_mul_left _ hq
    _ = 16 ^ (width + n / 16 ^ width) := (Nat.pow_add 16 width _).symm

/-- Digits that grow with the number tell any two numbers apart. -/
theorem Text.hexDigits_growing_inj {width n m : Nat}
    (h : Text.hexDigits (width + n / 16 ^ width) n = Text.hexDigits (width + m / 16 ^ width) m) :
    n = m := by
  have hw : width + n / 16 ^ width = width + m / 16 ^ width := by
    rw [← Text.length_hexDigits (width + n / 16 ^ width) n, h, Text.length_hexDigits]
  have hn := lt_pow_add_div width n
  rw [hw] at h hn
  exact Text.hexDigits_inj hn (lt_pow_add_div width m) h

theorem generatedId_inj {n m : Nat} (h : generatedId n = generatedId m) : n = m := by
  unfold generatedId at h
  have hdigits := String.ofList_inj.1 ((String.append_right_inj _).1 h)
  exact @Text.hexDigits_growing_inj 12 n m hdigits

/-- **An id made up by the store is not taken.**  One more id is tried than are taken, and they all
differ. -/
theorem freshId_not_mem (taken : List String) : freshId taken ∉ taken := by
  have hfound : ((List.range (taken.length + 1)).map generatedId).find?
      (fun id => !taken.contains id) ≠ none := by
    intro h
    have hsub : (List.range (taken.length + 1)).map generatedId ⊆ taken := by
      intro id hid
      simpa using List.find?_eq_none.1 h id hid
    have hnd : ((List.range (taken.length + 1)).map generatedId).Nodup :=
      List.nodup_range.map fun _ _ => generatedId_inj
    have hle := (hnd.subperm hsub).length_le
    rw [List.length_map, List.length_range] at hle
    omega
  obtain ⟨id, hid⟩ := Option.ne_none_iff_exists'.1 hfound
  rw [freshId, hid]
  simpa using List.find?_some hid

/-- Without an id of its own, something is given one that is not taken. -/
theorem idOr_none_not_mem (taken : List String) : idOr none taken ∉ taken := freshId_not_mem taken

/-! ## Rows under a key -/

section Key

variable {α κ : Type} {f : α → κ} {l : List α}

/-- Where no two rows share a key, the row found under a key is the one that has it. -/
theorem find?_key_eq_some_iff [DecidableEq κ] (h : (l.map f).Nodup) {k : κ} {a : α} :
    l.find? (fun x => f x == k) = some a ↔ a ∈ l ∧ f a = k := by
  constructor
  · intro hfind
    exact ⟨List.mem_of_find?_eq_some hfind, by simpa using List.find?_some hfind⟩
  · rintro ⟨ha, rfl⟩
    have hsome : (l.find? fun x => f x == f a).isSome := by
      rw [List.find?_isSome]
      exact ⟨a, ha, by simp⟩
    obtain ⟨b, hb⟩ := Option.isSome_iff_exists.1 hsome
    have hba : f b = f a := by simpa using List.find?_some hb
    rw [hb, List.inj_on_of_nodup_map h (List.mem_of_find?_eq_some hb) ha hba]

theorem nodup_map_append {more : List α} (h : (l.map f).Nodup) (hmore : (more.map f).Nodup)
    (hnew : ∀ y ∈ more, ∀ x ∈ l, f x ≠ f y) : ((l ++ more).map f).Nodup := by
  rw [List.map_append, List.nodup_append]
  refine ⟨h, hmore, ?_⟩
  intro a ha b hb hab
  obtain ⟨x, hx, rfl⟩ := List.mem_map.1 ha
  obtain ⟨y, hy, rfl⟩ := List.mem_map.1 hb
  exact hnew y hy x hx hab

theorem nodup_map_concat {a : α} (h : (l.map f).Nodup) (hnew : ∀ x ∈ l, f x ≠ f a) :
    ((l ++ [a]).map f).Nodup := by
  refine nodup_map_append h (by simp) ?_
  intro y hy
  rwa [List.mem_singleton.1 hy]

end Key

theorem repeated?_eq_none_iff {names : List String} : repeated? names = none ↔ names.Nodup := by
  induction names with
  | nil => simp [repeated?]
  | cons name rest ih =>
    rw [repeated?, List.nodup_cons, ← ih]
    by_cases h : name ∈ rest <;> simp [h]

/-! ## Tables with unique keys -/

namespace Tables

/-- No two rows of a table share a key, and every workflow owns its transitions. -/
structure Keyed (t : Tables) : Prop where
  entities : (t.entities.map Entity.id).Nodup
  rules : (t.rules.map fun s => s.rule.id).Nodup
  measures : (t.measures.map Measure.id).Nodup
  versions : (t.measures.map fun m => (m.identifier, m.version)).Nodup
  workflows : (t.workflows.map Workflow.id).Nodup
  /-- The states of a workflow have different names. -/
  states : ∀ w ∈ t.workflows, (w.states.map WorkflowState.name).Nodup
  /-- Transition ids are unique across all workflows. -/
  transitions : ((Database.allTransitions t).map Transition.id).Nodup
  owned : ∀ w ∈ t.workflows, ∀ u ∈ w.transitions, u.workflowId = w.id
  records : (t.records.map Record.id).Nodup
  audit : (t.audit.map AuditEntry.id).Nodup
  roles : t.roles.Nodup

theorem keyed_empty : Keyed {} := by
  constructor <;> simp [Database.allTransitions]

variable {t : Tables}

theorem Keyed.record?_eq_some_iff (h : t.Keyed) {entityId recordId : String} {r : Record} :
    t.record? entityId recordId = some r ↔
      r ∈ t.records ∧ r.entityId = entityId ∧ r.id = recordId := by
  constructor
  · intro hfind
    have hkey := List.find?_some hfind
    rw [Bool.and_eq_true, beq_iff_eq, beq_iff_eq] at hkey
    exact ⟨List.mem_of_find?_eq_some hfind, hkey⟩
  · rintro ⟨hr, rfl, rfl⟩
    have hsome : (t.record? r.entityId r.id).isSome := by
      rw [record?, List.find?_isSome]
      exact ⟨r, hr, by simp⟩
    obtain ⟨b, hb⟩ := Option.isSome_iff_exists.1 hsome
    have hkey := List.find?_some hb
    rw [Bool.and_eq_true, beq_iff_eq, beq_iff_eq] at hkey
    rw [hb, List.inj_on_of_nodup_map h.records (List.mem_of_find?_eq_some hb) hr hkey.2]

/-- A transition that names a workflow is one of its transitions. -/
theorem Keyed.mem_transitions (h : t.Keyed) {w : Workflow} {u : Transition} (hw : w ∈ t.workflows)
    (hu : u ∈ Database.allTransitions t) (howned : u.workflowId = w.id) : u ∈ w.transitions := by
  obtain ⟨w', hw', hu'⟩ := List.mem_flatMap.1 hu
  have hid : w'.id = w.id := (h.owned w' hw' u hu').symm.trans howned
  rwa [List.inj_on_of_nodup_map h.workflows hw' hw hid] at hu'

end Tables

/-- The tables of a database are keyed, if there are any. -/
def Database.Keyed (db : Database) : Prop := ∀ t ∈ db.tables, t.Keyed

end RecordRules
