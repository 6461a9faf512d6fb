import RecordRules.Proofs.System.Runs

/-!
# Runs without scripts

Where nobody writes scripts of their own or drops the tables, the tables only ever change in two
ways: a row is added that some operation was asked for, and a record moves along a transition whose
gates are open.

`Reachable.direct_induction` is the induction over such runs: what holds of the empty tables and is
kept by both kinds of changes holds in every system that these runs lead to.
-/

set_option autoImplicit false

namespace RecordRules

open Workflow

/-- A step that is asked for by itself: an operation that saves, creates, assigns or reads, or a
move along a transition.  Steps that run inside it have to be such steps as well. -/
def Step.Direct : Step → Prop
  | .operation .dropTables => False
  | .operation .loadSample => False
  | .operation _ => True
  | .wait _ => True
  | .move .. => True
  | .transaction _ => False
  | .request _ => False
  | .withdraw _ => True

section Direct

variable {p : Step → Prop} (hp : ∀ step, p step → step.Direct)
include hp

theorem plain_of_direct : Plain p := ⟨fun h => hp _ h, fun h => hp _ h⟩

theorem not_request_of_direct (r : Request) : ¬ p (.request r) := fun h => hp _ h

/-- Direct steps only add rows and move records. -/
theorem Change.Within.cases_of_direct {limits : Expression.Limits} {c : Change} {t : Tables}
    {o : Option Tables} (hc : c.Within p) (hmakes : c.Makes limits (some t) o) :
    (∃ i, c = .insert i ∧ i.Fits t ∧ o = some (i.apply t) ∧ ∃ op, p (.operation op) ∧ op.MayAdd i) ∨
      ∃ m q r savedAt performedAt, c = .move m q r savedAt performedAt ∧ Allowed limits t m q r ∧
        o = some (t.moved m q r savedAt performedAt) := by
  cases hmakes with
  | insert hi => exact Or.inl ⟨_, rfl, hi, rfl, hc⟩
  | move h => exact Or.inr ⟨_, _, _, _, _, rfl, h, rfl⟩
  | commit _ =>
    rcases hc with ⟨script, hscript⟩ | hdrop
    · exact (hp _ hscript).elim
    · exact (hp _ hdrop).elim
  | drop => exact (hp _ hc).elim

/-- **Induction over direct runs.**  An invariant ties the tables to what has been noted of them, as
far as it lasts. -/
theorem Reachable.direct_induction {s : System} {notes : List Note} (h : Reachable p s notes)
    {I : Tables → List Note → Prop} (hstart : I {} [])
    (hinsert : ∀ t lasting i o, t.Keyed → p (.operation o) → o.MayAdd i → i.Fits t →
      I t lasting → I (i.apply t) (lasting ++ (Change.insert i).note?.toList))
    (hmove : ∀ t lasting m q r savedAt performedAt, t.Keyed → Allowed s.limits t m q r →
      I t lasting → I (t.moved m q r savedAt performedAt) (lasting ++ [.moved m none])) :
    ∃ t, s.database.tables = some t ∧ t.Keyed ∧ I t (notes.filter Note.lasting) := by
  -- the invariant is carried along the history, change by change
  have hrun : ∀ {o o' : Option Tables} {changes : List Change},
      History s.limits o changes o' → (∀ c ∈ changes, c.Within p) →
      ∀ {t : Tables} {lasting : List Note}, o = some t → t.Keyed → I t lasting →
        ∃ u, o' = some u ∧ u.Keyed ∧ I u (lasting ++ changes.filterMap Change.note?) := by
    intro o o' changes hhistory
    induction hhistory with
    | nil _ =>
      intro _ t lasting ho hk hI
      refine ⟨t, ho, hk, ?_⟩
      rwa [List.filterMap_nil, List.append_nil]
    | @cons _ _ _ c rest hc _ ih =>
      intro hwithin t lasting ho hk hI
      subst ho
      have hrest : ∀ c ∈ rest, c.Within p := fun c hmem => hwithin c (List.mem_cons_of_mem _ hmem)
      have hfilter : ∀ note : List Note, c.note?.toList = note →
          lasting ++ (c :: rest).filterMap Change.note? =
            lasting ++ note ++ rest.filterMap Change.note? := by
        rintro _ rfl
        rw [List.filterMap_cons, List.append_assoc]
        cases c.note? <;> rfl
      rcases Change.Within.cases_of_direct hp (hwithin c (List.mem_cons_self ..)) hc with
        ⟨i, rfl, hfits, rfl, op, hop, hadd⟩ | ⟨m, q, r, savedAt, performedAt, rfl, hallowed, rfl⟩
      · rw [hfilter _ rfl]
        exact ih hrest rfl (Insert.keyed hk hfits) (hinsert t lasting i op hk hop hadd hfits hI)
      · rw [hfilter [.moved m none] rfl]
        exact ih hrest rfl (hk.moved savedAt performedAt)
          (hmove t lasting m q r savedAt performedAt hk hallowed hI)
  obtain ⟨changes, hhistory, hwithin, htold⟩ := h.history (not_request_of_direct hp)
  obtain ⟨t, ht, hk, hI⟩ := hrun hhistory hwithin rfl Tables.keyed_empty hstart
  rw [List.nil_append, ← htold (plain_of_direct hp)] at hI
  exact ⟨t, ht, hk, hI⟩

end Direct
end RecordRules
