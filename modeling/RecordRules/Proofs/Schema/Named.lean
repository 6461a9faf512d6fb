import RecordRules.Proofs.Outcome
import RecordRules.Schema.Workflow

/-!
# States have names

The data model of a transition takes no blank name for a state, so no transition of a workflow that
has passed its check leads to a state with an empty name: `Workflow.named_of_check`.
-/

set_option autoImplicit false

namespace RecordRules

/-! ## Checked data that is right -/

namespace Checked

variable {α β : Type}

theorem apply_result_eq_ok_iff {f : Checked (α → β)} {c : Checked α} {b : β} :
    (apply f c).result = .ok b ↔ ∃ g a, f.result = .ok g ∧ c.result = .ok a ∧ g a = b := by
  rw [apply]
  cases f.result <;> cases c.result <;> simp

theorem map_result_eq_ok_iff {f : α → β} {c : Checked α} {b : β} :
    (map f c).result = .ok b ↔ ∃ a, c.result = .ok a ∧ f a = b := by
  rw [map]
  cases c.result <;> simp [Except.map]

theorem andThen_result_eq_ok_iff {c : Checked α} {next : α → Checked β} {b : β} :
    (c.andThen next).result = .ok b ↔ ∃ a, c.result = .ok a ∧ (next a).result = .ok b := by
  rw [andThen]
  cases c.result <;> simp

theorem under_result_eq_ok_iff {place : Place} {c : Checked α} {a : α} :
    (under place c).result = .ok a ↔ c.result = .ok a := by
  rw [under]
  exact mapError_eq_ok_iff

/-- Every item of a list that is right has been checked. -/
theorem mem_of_all {check : Value → Checked α} {n : Nat} {vs : List Value} {as : List α}
    (h : (all check n vs).result = .ok as) {a : α} (ha : a ∈ as) :
    ∃ v, (check v).result = .ok a := by
  induction vs generalizing n as with
  | nil =>
    cases h
    cases ha
  | cons v rest ih =>
    obtain ⟨g, bs, hg, hrest, rfl⟩ := apply_result_eq_ok_iff.1 h
    obtain ⟨b, hb, rfl⟩ := map_result_eq_ok_iff.1 hg
    rcases List.mem_cons.1 ha with rfl | ha
    · exact ⟨v, under_result_eq_ok_iff.1 hb⟩
    · exact ih hrest ha

end Checked

namespace Shape

open Checked

variable {α : Type} {fields : Fields Value} {name : String} {check : Value → Checked α}

theorem exists_of_required {a : α} (h : (required fields name check).result = .ok a) :
    ∃ v, (check v).result = .ok a := by
  rw [required, under_result_eq_ok_iff] at h
  split at h
  · exact ⟨_, h⟩
  · cases h

theorem mem_of_defaulted_items {as : List α}
    (h : (defaulted fields name [] (items check)).result = .ok as) {a : α} (ha : a ∈ as) :
    ∃ v, (check v).result = .ok a := by
  rw [defaulted] at h
  split at h
  · rw [under_result_eq_ok_iff, items] at h
    obtain ⟨vs, -, h⟩ := andThen_result_eq_ok_iff.1 h
    exact mem_of_all h ha
  · cases h
    cases ha

end Shape

/-! ## Transitions and workflows -/

open Checked

/-- The name of a state is not empty once it has passed its check. -/
theorem Transition.ne_empty_of_checkState {v : Value} {name : String}
    (h : (checkState v).result = .ok name) : name ≠ "" := by
  obtain ⟨given, -, h⟩ := andThen_result_eq_ok_iff.1 h
  split at h
  · cases h
  · rename_i hblank
    cases h
    intro hempty
    refine hblank ?_
    rw [Text.trimmed, ← String.toList_inj, String.toList_ofList, String.toList_empty] at hempty
    exact Text.trim_nil_iff.1 hempty

theorem Transition.toState_ne_empty {fields : Fields Value} {u : Transition}
    (h : (Transition.check fields).result = .ok u) : u.toState ≠ "" := by
  -- the fields are peeled off from the last one on, down to the name of the state
  obtain ⟨g₉, _, h₉, -, rfl⟩ := apply_result_eq_ok_iff.1 h
  obtain ⟨g₈, _, h₈, -, rfl⟩ := apply_result_eq_ok_iff.1 h₉
  obtain ⟨g₇, _, h₇, -, rfl⟩ := apply_result_eq_ok_iff.1 h₈
  obtain ⟨g₆, _, h₆, -, rfl⟩ := apply_result_eq_ok_iff.1 h₇
  obtain ⟨g₅, _, h₅, -, rfl⟩ := apply_result_eq_ok_iff.1 h₆
  obtain ⟨g₄, _, h₄, -, rfl⟩ := apply_result_eq_ok_iff.1 h₅
  obtain ⟨g₃, _, h₃, hto, rfl⟩ := apply_result_eq_ok_iff.1 h₄
  obtain ⟨g₂, _, h₂, -, rfl⟩ := apply_result_eq_ok_iff.1 h₃
  obtain ⟨g₁, _, h₁, -, rfl⟩ := apply_result_eq_ok_iff.1 h₂
  obtain ⟨_, -, rfl⟩ := map_result_eq_ok_iff.1 h₁
  obtain ⟨v, hv⟩ := Shape.exists_of_required hto
  exact ne_empty_of_checkState hv

/-- No transition of the workflow leads to a state with an empty name. -/
def Workflow.Named (w : Workflow) : Prop := ∀ u ∈ w.transitions, u.toState ≠ ""

instance (w : Workflow) : Decidable w.Named :=
  inferInstanceAs (Decidable (∀ u ∈ w.transitions, u.toState ≠ ""))

/-- A workflow that has passed its check is named. -/
theorem Workflow.named_of_check {fields : Fields Value} {w : Workflow}
    (h : (Workflow.check fields).result = .ok w) : w.Named := by
  intro u hu
  obtain ⟨⟨id, name, initial, states, transitions⟩, hread, h⟩ := andThen_result_eq_ok_iff.1 h
  have htransitions : w.transitions = transitions := by
    dsimp only [make] at h
    split at h
    · cases h
      rfl
    · cases h
  obtain ⟨g, ts, hg, hts, hparts⟩ := apply_result_eq_ok_iff.1 hread
  obtain ⟨g₃, _, h₃, -, rfl⟩ := apply_result_eq_ok_iff.1 hg
  obtain ⟨g₂, _, h₂, -, rfl⟩ := apply_result_eq_ok_iff.1 h₃
  obtain ⟨g₁, _, h₁, -, rfl⟩ := apply_result_eq_ok_iff.1 h₂
  obtain ⟨_, -, rfl⟩ := map_result_eq_ok_iff.1 h₁
  cases hparts
  rw [htransitions] at hu
  obtain ⟨v, hv⟩ := Shape.mem_of_defaulted_items hts hu
  cases v with
  | map entries => exact Transition.toState_ne_empty hv
  | _ => cases hv

end RecordRules
