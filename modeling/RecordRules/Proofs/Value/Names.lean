import RecordRules.Proofs.Value.Ordered

/-!
# The names of fields

Which names there are after a name has been set or removed, and what is found under the others.

* `Fields.names_set_of_new` and `Fields.length_set_of_new`: a new name comes last, as one more
  field.
* `Fields.names_erase` and `Fields.get?_erase`: a name that is removed is gone, and no other.
* `Fields.get?_filter`: fields selected by their names.
-/

set_option autoImplicit false

namespace RecordRules
namespace Fields

variable {α : Type}

theorem has_iff_mem_names {fields : Fields α} {key : String} :
    has fields key = true ↔ key ∈ names fields := by
  induction fields with
  | nil => simp [has, names]
  | cons f rest ih =>
    rw [has, names, List.map_cons, List.mem_cons, get?]
    by_cases h : f.1 = key
    · rw [if_pos h]
      exact iff_of_true rfl (.inl h.symm)
    · rw [if_neg h]
      exact ih.trans (or_iff_right (Ne.symm h)).symm

theorem has_eq_false_iff {fields : Fields α} {key : String} :
    has fields key = false ↔ get? fields key = none := by
  rw [has, Option.isSome_eq_false_iff, Option.isNone_iff_eq_none]

/-- A new name comes last. -/
theorem names_set_of_new {fields : Fields α} {key : String} (h : key ∉ names fields) (value : α) :
    names (set fields key value) = names fields ++ [key] := by
  induction fields with
  | nil => rfl
  | cons f rest ih =>
    obtain ⟨hne, hrest⟩ := not_or.1 (mt List.mem_cons.2 h)
    rw [set, if_neg (Ne.symm hne)]
    exact congrArg (f.1 :: ·) (ih hrest)

/-- A name under which nothing stands adds a field. -/
theorem length_set_of_new {fields : Fields α} {key : String} (h : get? fields key = none)
    (value : α) : (set fields key value).length = fields.length + 1 := by
  have hnew : key ∉ names fields := fun hmem => by
    exact Bool.false_ne_true ((has_eq_false_iff.2 h).symm.trans (has_iff_mem_names.2 hmem))
  have hnames := congrArg List.length (names_set_of_new hnew value)
  rwa [List.length_append, names, names, List.length_map, List.length_map] at hnames

/-- Fields selected by their names. -/
theorem get?_filter (fields : Fields α) (p : String → Bool) (key : String) :
    get? (fields.filter fun f => p f.1) key = if p key = true then get? fields key else none := by
  rw [get?_eq_filter, get?_eq_filter, List.filter_filter]
  split
  · next h =>
    have hsame : fields.filter (fun f => decide (f.1 = key) && p f.1) =
        fields.filter fun f => decide (f.1 = key) := by
      refine List.filter_congr fun f _ => ?_
      by_cases hname : f.1 = key
      · rw [hname, h, Bool.and_true]
      · rw [decide_eq_false hname, Bool.false_and]
    rw [hsame]
  · next h =>
    have hnone : fields.filter (fun f => decide (f.1 = key) && p f.1) = [] := by
      rw [List.filter_eq_nil_iff]
      intro f _ hf
      rw [Bool.and_eq_true, decide_eq_true_eq] at hf
      exact h (hf.1 ▸ hf.2)
    rw [hnone]
    rfl

/-- What is removed is gone, and everything else stays. -/
theorem get?_erase (fields : Fields α) (key other : String) :
    get? (erase fields key) other = if other = key then none else get? fields other := by
  rw [erase, get?_filter fields (fun name => name != key)]
  by_cases h : other = key
  · rw [if_pos h, if_neg (by simpa using h)]
  · rw [if_neg h, if_pos (by simpa using h)]

theorem names_erase (fields : Fields α) (key : String) :
    names (erase fields key) = (names fields).filter (· != key) := by
  rw [erase, names, names, List.filter_map]
  rfl

end Fields
end RecordRules
