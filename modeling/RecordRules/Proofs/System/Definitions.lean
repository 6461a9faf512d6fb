import RecordRules.Proofs.System.Runs

/-!
# Definitions in the tables

Entities, rules, measures and workflows are saved once and never change.  So each one that stands in
the tables is there because an operation has added it.

* `Insert.Stands`: a row is a definition and stands in its table.
* `Change.Makes.stands`, `History.stands`: definitions only come in by being added.
* `Operation.MayAdd.origin`: what the sample adds is added by one of its operations.
* `Reachable.stands`: every definition in a reachable system has been added by an operation of the
  run, or is part of the sample.
-/

set_option autoImplicit false

namespace RecordRules

namespace Insert

/-- The row is a definition, and stands in its table. -/
def Stands (t : Tables) : Insert → Prop
  | .entity e => e ∈ t.entities
  | .rule r => r ∈ t.rules
  | .measure m => m ∈ t.measures
  | .workflow w => w ∈ t.workflows
  | .record _ | .grant .. | .indexes => False

variable {t u : Tables} {i j : Insert}

/-- No definition stands in empty tables. -/
theorem not_stands_empty : ¬ i.Stands {} := by
  cases i <;> exact nofun

/-- Definitions are looked for in their own tables only. -/
theorem stands_congr (hentities : u.entities = t.entities) (hrules : u.rules = t.rules)
    (hmeasures : u.measures = t.measures) (hworkflows : u.workflows = t.workflows) :
    i.Stands u ↔ i.Stands t := by
  cases i <;> simp only [Stands, hentities, hrules, hmeasures, hworkflows]

/-- A definition that stands in the tables once a row has been added stood there before, or is that
row. -/
theorem Stands.of_apply (h : i.Stands (j.apply t)) : j = i ∨ i.Stands t := by
  have hlast : ∀ {α : Type} {l : List α} {a b : α}, a ∈ l ++ [b] → b = a ∨ a ∈ l := fun h =>
    (List.mem_append.1 h).symm.imp_left fun h => (List.mem_singleton.1 h).symm
  cases i with
  | entity e =>
    cases j with
    | entity f => exact (hlast h).imp_left (congrArg Insert.entity)
    | _ => exact Or.inr h
  | rule r =>
    cases j with
    | rule f => exact (hlast h).imp_left (congrArg Insert.rule)
    | _ => exact Or.inr h
  | measure m =>
    cases j with
    | measure f => exact (hlast h).imp_left (congrArg Insert.measure)
    | _ => exact Or.inr h
  | workflow w =>
    cases j with
    | workflow f => exact (hlast h).imp_left (congrArg Insert.workflow)
    | _ => exact Or.inr h
  | record r => exact h.elim
  | grant actor role => exact h.elim
  | indexes => exact h.elim

end Insert

/-- Scripts write no definitions. -/
theorem Tables.Written.stands {t u : Tables} {ws : List Write} (h : t.Written ws u) {i : Insert} :
    i.Stands u ↔ i.Stands t := by
  induction h with
  | nil => exact Iff.rfl
  | @snoc u ws w _ _ ih =>
    refine Iff.trans ?_ ih
    cases w <;> exact Insert.stands_congr rfl rfl rfl rfl

section History

variable {limits : Expression.Limits} {o o' : Option Tables} {i : Insert}

/-- A definition only comes in by being added. -/
theorem Change.Makes.stands {c : Change} (h : c.Makes limits o o')
    (hi : ∃ t ∈ o', i.Stands t) : c = .insert i ∨ ∃ t ∈ o, i.Stands t := by
  obtain ⟨u, hu, hi⟩ := hi
  cases h with
  | @insert t j _ =>
    cases hu
    exact hi.of_apply.imp (congrArg Change.insert) fun hi => ⟨t, rfl, hi⟩
  | @move t _ _ _ _ _ =>
    cases hu
    exact Or.inr ⟨t, rfl, (Insert.stands_congr rfl rfl rfl rfl).1 hi⟩
  | @commit t _ _ hwritten =>
    cases hu
    exact Or.inr ⟨t, rfl, hwritten.stands.1 hi⟩
  | create =>
    cases hu
    exact absurd hi Insert.not_stands_empty
  | drop => cases hu

/-- A definition that stands in the tables after a history has been added in its course, or stood
there before. -/
theorem History.stands {changes : List Change} (h : History limits o changes o')
    (hi : ∃ t ∈ o', i.Stands t) : .insert i ∈ changes ∨ ∃ t ∈ o, i.Stands t := by
  induction h with
  | nil _ => exact Or.inr hi
  | cons hc _ ih =>
    rcases ih hi with hmem | hstood
    · exact Or.inl (List.mem_cons_of_mem _ hmem)
    · rcases hc.stands hstood with rfl | hstood
      · exact Or.inl (List.mem_cons_self ..)
      · exact Or.inr hstood

end History

/-- What an operation adds is added by that operation itself or, if it loads the sample, by one of
those that make up the sample. -/
theorem Operation.MayAdd.origin {op : Operation} {i : Insert} (h : op.MayAdd i) :
    ∃ o, (o = op ∨ o ∈ Sample.operations) ∧ o ≠ .loadSample ∧ o.MayAdd i := by
  induction h with
  | entity h => exact ⟨_, Or.inl rfl, nofun, .entity h⟩
  | rule h => exact ⟨_, Or.inl rfl, nofun, .rule h⟩
  | measure h => exact ⟨_, Or.inl rfl, nofun, .measure h⟩
  | workflow h => exact ⟨_, Or.inl rfl, nofun, .workflow h⟩
  | record h => exact ⟨_, Or.inl rfl, nofun, .record h⟩
  | role => exact ⟨_, Or.inl rfl, nofun, .role⟩
  | indexes => exact ⟨_, Or.inl rfl, nofun, .indexes⟩
  | sample hop _ ih =>
    obtain ⟨o, ho, hsample, hadd⟩ := ih
    refine ⟨o, Or.inr ?_, hsample, hadd⟩
    rcases ho with rfl | ho
    · exact hop
    · exact ho

/-- **Definitions come from operations.**  In every reachable system, each definition that stands in
the tables has been added by an operation of the run, or is part of the sample. -/
theorem Reachable.stands {p : Step → Prop} (hp : ∀ r, ¬ p (.request r)) {s : System}
    {notes : List Note} (h : Reachable p s notes) {t : Tables} (ht : s.database.tables = some t)
    {i : Insert} (hi : i.Stands t) :
    ∃ o, (p (.operation o) ∨ o ∈ Sample.operations) ∧ o ≠ .loadSample ∧ o.MayAdd i := by
  obtain ⟨changes, hhistory, hwithin, -⟩ := h.history hp
  rcases hhistory.stands ⟨t, ht, hi⟩ with hmem | ⟨_, ⟨⟩, hempty⟩
  · obtain ⟨op, hop, hadd⟩ := hwithin _ hmem
    obtain ⟨o, ho, hsample, hadd⟩ := hadd.origin
    refine ⟨o, ho.imp_left fun h => ?_, hsample, hadd⟩
    rw [h]
    exact hop
  · exact absurd hempty Insert.not_stands_empty

end RecordRules
