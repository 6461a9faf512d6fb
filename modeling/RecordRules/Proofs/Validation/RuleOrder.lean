import RecordRules.Proofs.System.Saving
import RecordRules.Proofs.Validation.Independence

/-!
# Rules are looked up in one order

Whatever rules are saved, in whatever order, a look-up finds those in force that it asks for, by
name and then by id.  As no two rules share an id, this is one order.

* `Database.activeRules_exact`: which rules a look-up finds, and in which order.
* `accepted` are the saves of a run that succeed; `runAll_saves` says what they add to the tables,
  and `accepted_eq_filter` that among different ids each is accepted or refused on its own.
* `SameLookups`: two databases in which the same entities and rules are found.  Every check finds
  the same issues in them.
* `Reachable.rules_exact` is the theorem about all systems that runs lead to.
-/

set_option autoImplicit false

namespace RecordRules

/-! ## The order of rules -/

/-- A rule stands before another one: its name does, or else its id. -/
def Rule.Before (a b : Rule) : Prop := a.name < b.name ∨ a.name = b.name ∧ a.id < b.id

namespace Database

variable {t u : Tables}

theorem before_of_rulePrecedes {a b : Rule} (h : rulePrecedes a b = true) (hid : a.id ≠ b.id) :
    a.Before b := by
  rw [rulePrecedes, Bool.or_eq_true, Bool.and_eq_true, decide_eq_true_eq, beq_iff_eq,
    decide_eq_true_eq] at h
  exact h.imp_right fun h => ⟨h.1, lt_of_le_of_ne h.2 hid⟩

theorem mem_selected {selects : Rule → Bool} {r : Rule} :
    r ∈ selected t selects ↔ ⟨r, true⟩ ∈ t.rules ∧ selects r = true := by
  rw [selected, List.mem_filterMap]
  constructor
  · rintro ⟨⟨rule, active⟩, hmem, hsome⟩
    split at hsome
    · rename_i hselected
      obtain ⟨hactive, hselects⟩ := (Bool.and_eq_true _ _).mp hselected
      cases hsome
      cases hactive
      exact ⟨hmem, hselects⟩
    · cases hsome
  · rintro ⟨hmem, hselects⟩
    exact ⟨⟨r, true⟩, hmem, by simp [hselects]⟩

/-- **A look-up finds exactly the rules in force that it asks for**, each once, by name and id. -/
theorem activeRules_exact (hk : t.Keyed) (selects : Rule → Bool) :
    (activeRules t selects).Pairwise Rule.Before ∧
      ∀ r, r ∈ activeRules t selects ↔ ⟨r, true⟩ ∈ t.rules ∧ selects r = true := by
  refine ⟨?_, fun r => List.mem_mergeSort.trans mem_selected⟩
  have hsorted : (activeRules t selects).Pairwise fun a b => rulePrecedes a b = true :=
    List.pairwise_mergeSort rulePrecedes_trans rulePrecedes_total _
  have hids : ((activeRules t selects).map Rule.id).Nodup :=
    ((List.mergeSort_perm _ _).map Rule.id).nodup_iff.2 (selected_nodup hk selects)
  exact (hsorted.and (List.pairwise_map.1 hids)).imp fun h => before_of_rulePrecedes h.1 h.2

/-- The order in which rules have been saved makes no difference. -/
theorem activeRules_of_perm (hk : t.Keyed) (h : t.rules.Perm u.rules) (selects : Rule → Bool) :
    activeRules t selects = activeRules u selects :=
  mergeSort_rules_eq (selected_nodup hk selects) (h.filterMap _)

end Database

/-! ## Saves -/

/-- Saves a rule, in force or not. -/
def Operation.saving (x : Rule × Bool) : Operation := .saveRule x.1 x.2

/-- A rule in the form in which the store keeps it, if there is one. -/
def Rule.kept? (r : Rule) : Option Rule :=
  (documentFields r.metadata).toOption.map fun metadata => { r with metadata }

/-- The row that a save adds. -/
def savedRow? (x : Rule × Bool) : Option StoredRule := x.1.kept?.map fun r => ⟨r, x.2⟩

/-- Whether a save succeeds. -/
def accepts (s : System) (x : Rule × Bool) : Bool :=
  ((Operation.saving x).run s).1.failure?.isNone

/-- The saves that succeed when one is made after the other. -/
def accepted : System → List (Rule × Bool) → List (Rule × Bool)
  | _, [] => []
  | s, x :: rest =>
    let others := accepted ((Operation.saving x).run s).2 rest
    if accepts s x then x :: others else others

/-- The system after saves, one after the other. -/
def afterSaves (s : System) (saves : List (Rule × Bool)) : System :=
  (runAll s (saves.map fun x => .operation (.saving x))).2

theorem savedRow?_eq_some_iff {x : Rule × Bool} {row : StoredRule} :
    savedRow? x = some row ↔ ∃ metadata, documentFields x.1.metadata = .ok metadata ∧
      row = ⟨{ x.1 with metadata }, x.2⟩ := by
  rw [savedRow?, Rule.kept?]
  cases documentFields x.1.metadata with
  | error e => simp [Except.toOption]
  | ok metadata => simp [Except.toOption, eq_comm]

/-- A rule is kept under its id. -/
theorem savedRow?_id {x : Rule × Bool} {row : StoredRule} (h : savedRow? x = some row) :
    row.rule.id = x.1.id := by
  obtain ⟨metadata, -, rfl⟩ := savedRow?_eq_some_iff.1 h
  rfl

/-- What a save needs: nobody is writing, its id is not taken, and the store has a form for it. -/
structure Savable (locked : Bool) (t : Tables) (x : Rule × Bool) : Prop where
  unlocked : locked = false
  fresh : ∀ y ∈ t.rules, y.rule.id ≠ x.1.id
  kept : (savedRow? x).isSome

section Saves

variable {s : System} {t : Tables} (ht : s.database.tables = some t) (hk : t.Keyed)
include ht

theorem saving_extends_iff {x : Rule × Bool} {db : Database} :
    (Operation.saving x).Extends s.now s.database db ↔ Savable s.database.locked t x ∧
      ∃ row, savedRow? x = some row ∧
        db = { s.database with tables := some ((Insert.rule row).apply t) } := by
  constructor
  · rintro ⟨u, i, hu, hlocked, hadds, rfl⟩
    cases ht.symm.trans hu
    cases hadds with
    | rule hid hmetadata =>
      have hrow := savedRow?_eq_some_iff.2 ⟨_, hmetadata, rfl⟩
      exact ⟨⟨hlocked, hid, by rw [hrow]; rfl⟩, _, hrow, rfl⟩
  · rintro ⟨hsavable, row, hrow, rfl⟩
    obtain ⟨metadata, hmetadata, rfl⟩ := savedRow?_eq_some_iff.1 hrow
    exact ⟨t, _, ht, hsavable.unlocked, .rule hsavable.fresh hmetadata, rfl⟩

include hk

/-- A save adds its row, or it is refused and nothing changes. -/
theorem run_saving (x : Rule × Bool) :
    (accepts s x = false ∧ ¬ Savable s.database.locked t x ∧
        ((Operation.saving x).run s).2 = s) ∨
      ∃ row, accepts s x = true ∧ Savable s.database.locked t x ∧ savedRow? x = some row ∧
        ((Operation.saving x).run s).2.database =
          { s.database with tables := some ((Insert.rule row).apply t) } := by
  have hkeyed : s.database.Keyed := fun u hu => by
    cases ht.symm.trans hu
    exact hk
  have hinsert : (Operation.saving x).IsInsert := trivial
  rcases hinsert.run_cases hkeyed with ⟨e, he, hsame, hnone⟩ | ⟨db, hdone, hafter, hextends⟩
  · refine .inl ⟨by rw [accepts, he]; rfl, fun hsavable => ?_, hsame⟩
    obtain ⟨row, hrow⟩ := Option.isSome_iff_exists.1 hsavable.kept
    exact hnone _ ((saving_extends_iff ht).2 ⟨hsavable, row, hrow, rfl⟩)
  · obtain ⟨hsavable, row, hrow, rfl⟩ := (saving_extends_iff ht).1 hextends
    exact .inr ⟨row, by rw [accepts, hdone]; rfl, hsavable, hrow, by rw [hafter]; rfl⟩

theorem accepts_iff {x : Rule × Bool} :
    accepts s x = true ↔ Savable s.database.locked t x := by
  rcases run_saving ht hk x with ⟨hrefused, hnot, -⟩ | ⟨row, haccepted, hsavable, -⟩
  · simp [hrefused, hnot]
  · simp [haccepted, hsavable]

omit ht in
theorem Savable.keyed {locked : Bool} {x : Rule × Bool} (h : Savable locked t x)
    {row : StoredRule} (hrow : savedRow? x = some row) : ((Insert.rule row).apply t).Keyed := by
  refine Insert.keyed hk fun y hy => ?_
  rw [savedRow?_id hrow]
  exact h.fresh y hy

/-- **What a run of saves leaves in the tables**: the rows of those that have succeeded. -/
theorem afterSaves_tables (saves : List (Rule × Bool)) :
    ∃ u, (afterSaves s saves).database = { s.database with tables := some u } ∧ u.Keyed ∧
      u = { t with rules := t.rules ++ (accepted s saves).filterMap savedRow? } := by
  induction saves generalizing s t with
  | nil =>
    refine ⟨t, ?_, hk, by rw [accepted, List.filterMap_nil, List.append_nil]⟩
    rw [← ht]
    rfl
  | cons x rest ih =>
    have hrun : afterSaves s (x :: rest) = afterSaves ((Operation.saving x).run s).2 rest := rfl
    rw [hrun, accepted]
    rcases run_saving ht hk x with ⟨hrefused, -, hsame⟩ | ⟨row, haccepted, hsavable, hrow, hafter⟩
    · rw [hrefused, if_neg Bool.false_ne_true, hsame]
      exact ih ht hk
    · obtain ⟨u, hu, hkeyed, hrules⟩ := ih (by rw [hafter]) (hsavable.keyed hk hrow)
      refine ⟨u, by rw [hu, hafter], hkeyed, ?_⟩
      rw [hrules, haccepted, if_pos rfl, List.filterMap_cons_some hrow, Insert.apply,
        List.append_assoc, List.singleton_append]

/-- **Among different ids, each save is accepted or refused on its own.** -/
theorem accepted_eq_filter {saves : List (Rule × Bool)}
    (hids : (saves.map fun x => x.1.id).Nodup) : accepted s saves = saves.filter (accepts s) := by
  induction saves generalizing s t with
  | nil => rfl
  | cons x rest ih =>
    rw [List.map_cons, List.nodup_cons] at hids
    rw [accepted]
    rcases run_saving ht hk x with ⟨hrefused, -, hsame⟩ | ⟨row, haccepted, hsavable, hrow, hafter⟩
    · rw [hrefused, if_neg Bool.false_ne_true, hsame, ih ht hk hids.2,
        List.filter_cons_of_neg (by rw [hrefused]; exact Bool.false_ne_true)]
    · have hkeyed := hsavable.keyed hk hrow
      -- the row that has come in takes no id that is still to be saved
      have hothers : ∀ y ∈ rest, accepts ((Operation.saving x).run s).2 y = accepts s y := by
        intro y hy
        have hne : row.rule.id ≠ y.1.id := by
          rw [savedRow?_id hrow]
          exact fun heq => hids.1 (heq ▸ List.mem_map_of_mem hy)
        have hfresh : Savable s.database.locked ((Insert.rule row).apply t) y ↔
            Savable s.database.locked t y := by
          refine ⟨fun h => ⟨h.unlocked, fun z hz => h.fresh z (List.mem_append_left _ hz), h.kept⟩,
            fun h => ⟨h.unlocked, fun z hz => ?_, h.kept⟩⟩
          rcases List.mem_append.1 hz with hz | hz
          · exact h.fresh z hz
          · rwa [List.mem_singleton.1 hz]
        rw [Bool.eq_iff_iff, accepts_iff ht hk, accepts_iff (by rw [hafter]) hkeyed, ← hfresh,
          hafter]
      rw [haccepted, if_pos rfl, ih (by rw [hafter]) hkeyed hids.2, List.filter_congr hothers,
        List.filter_cons_of_pos haccepted]

end Saves

/-! ## Checks that find the same rules -/

/-- The same entities and the same rules are found in two databases. -/
structure SameLookups (db db' : Database) : Prop where
  entity : ∀ entityId, db.getEntity entityId = db'.getEntity entityId
  fieldRules : ∀ entityId propertyName,
    db.getFieldRules entityId propertyName = db'.getFieldRules entityId propertyName
  scopeRules : ∀ entityId scope,
    db.getRulesByScope entityId scope = db'.getRulesByScope entityId scope

namespace SameLookups

open Validation

variable {db db' : Database} (h : SameLookups db db')
include h

theorem findEntity_eq : findEntity db = findEntity db' := by
  funext entityId
  rw [findEntity, findEntity, h.entity]

theorem rulesOfProperty_eq : Validation.fieldRules db = Validation.fieldRules db' := by
  funext entityId event p
  rw [Validation.fieldRules, Validation.fieldRules, h.fieldRules]

theorem scopeIssues_eq : scopeIssues db = scopeIssues db' := by
  funext limits context entityId event scope default
  rw [scopeIssues, scopeIssues, h.scopeRules]

theorem recordIssues_eq : recordIssues db = recordIssues db' := by
  funext checker entityId data event previous
  rw [recordIssues, recordIssues, h.findEntity_eq, h.rulesOfProperty_eq, h.scopeIssues_eq]

theorem fieldIssues_eq : fieldIssues db = fieldIssues db' := by
  funext checker entityId propertyName value data
  rw [fieldIssues, fieldIssues, h.findEntity_eq, h.rulesOfProperty_eq]

theorem transitionIssues_eq : transitionIssues db = transitionIssues db' := by
  funext limits entityId data u actor previous
  simp only [transitionIssues, h.findEntity_eq, h.scopeRules]

end SameLookups

open Validation in
/-- The same entities, and the same rules in another order: the same is found. -/
theorem sameLookups_of_perm {db db' : Database} {t u : Tables} (hk : t.Keyed)
    (ht : db.tables = some t) (hu : db'.tables = some u) (hentities : t.entities = u.entities)
    (hrules : t.rules.Perm u.rules) : SameLookups db db' where
  entity entityId := by
    have hfound : ∀ {db : Database} {t : Tables}, db.tables = some t →
        db.getEntity entityId = .ok (t.entities.find? fun e => e.id == entityId) :=
      fun ht => Database.read_eq_ok_iff.2 ⟨_, ht, rfl⟩
    rw [hfound ht, hfound hu, hentities]
  fieldRules entityId propertyName := by
    rw [getFieldRules_eq ht, getFieldRules_eq hu, Database.activeRules_of_perm hk hrules]
  scopeRules entityId scope := by
    rw [getRulesByScope_eq ht, getRulesByScope_eq hu, Database.activeRules_of_perm hk hrules]

/-! ## The theorem -/

/-- A rule in force after saves in a system with some tables: it was before, or it is what the store
keeps of a rule that was saved in force, and not refused. -/
def InForceAfter (s : System) (t : Tables) (saves : List (Rule × Bool)) (r : Rule) : Prop :=
  ⟨r, true⟩ ∈ t.rules ∨ ∃ x ∈ accepted s saves, x.2 = true ∧ x.1.kept? = some r

theorem savedRow?_eq_active_iff {x : Rule × Bool} {r : Rule} :
    savedRow? x = some ⟨r, true⟩ ↔ x.2 = true ∧ x.1.kept? = some r := by
  rw [savedRow?, Option.map_eq_some_iff]
  constructor
  · rintro ⟨kept, hkept, heq⟩
    obtain ⟨rfl, hactive⟩ := StoredRule.mk.inj heq
    exact ⟨hactive, hkept⟩
  · rintro ⟨hactive, hkept⟩
    exact ⟨r, hkept, by rw [hactive]⟩

open Validation in
/-- **A look-up finds exactly the right rules, in an order of their own.**  In a reachable system
with tables, rules are saved one after the other, in force or not, and some of them may be refused.
Then:

* a look-up of the rules about a field finds exactly those in force that are of the field scope and
  about that property of that entity, each once and sorted by name and then by id;
* a look-up of the rules of a scope does so for the entity and the scope;
* if the rules have different ids, then all checks of records, fields and transitions find the same
  issues whatever the order of the saves. -/
theorem Reachable.rules_exact {s : System} {notes : List Note}
    (h : Reachable Step.Local s notes) {t : Tables} (ht : s.database.tables = some t)
    (saves : List (Rule × Bool)) :
    (∀ entityId propertyName, ∃ rules,
        (afterSaves s saves).database.getFieldRules entityId propertyName = .ok rules ∧
        rules.Pairwise Rule.Before ∧
        ∀ r, r ∈ rules ↔ InForceAfter s t saves r ∧ r.entityId = entityId ∧
          r.propertyName = some propertyName ∧ r.scope = .field) ∧
      (∀ entityId scope, ∃ rules,
        (afterSaves s saves).database.getRulesByScope entityId scope = .ok rules ∧
        rules.Pairwise Rule.Before ∧
        ∀ r, r ∈ rules ↔ InForceAfter s t saves r ∧ r.entityId = entityId ∧ r.scope = scope) ∧
      ∀ saves' : List (Rule × Bool), saves.Perm saves' →
        (saves.map fun x => x.1.id).Nodup →
        recordIssues (afterSaves s saves).database =
            recordIssues (afterSaves s saves').database ∧
          fieldIssues (afterSaves s saves).database = fieldIssues (afterSaves s saves').database ∧
          transitionIssues (afterSaves s saves).database =
            transitionIssues (afterSaves s saves').database := by
  have hk : t.Keyed := h.keyed (fun _ hrequest => hrequest) t ht
  obtain ⟨u, hu, hkeyed, hrules⟩ := afterSaves_tables ht hk saves
  have hmem : ∀ r, ⟨r, true⟩ ∈ u.rules ↔ InForceAfter s t saves r := fun r => by
    rw [hrules, List.mem_append, List.mem_filterMap, InForceAfter]
    simp only [savedRow?_eq_active_iff]
  have hexact : ∀ selects : Rule → Bool, ∀ r, r ∈ Database.activeRules u selects ↔
      InForceAfter s t saves r ∧ selects r = true := fun selects r => by
    rw [(Database.activeRules_exact hkeyed selects).2, hmem]
  have htables : (afterSaves s saves).database.tables = some u := by rw [hu]
  refine ⟨fun entityId propertyName => ?_, fun entityId scope => ?_, fun saves' hperm hids => ?_⟩
  · refine ⟨_, getFieldRules_eq htables entityId propertyName,
      (Database.activeRules_exact hkeyed _).1, fun r => (hexact _ r).trans ?_⟩
    simp [and_assoc]
  · refine ⟨_, getRulesByScope_eq htables entityId scope,
      (Database.activeRules_exact hkeyed _).1, fun r => (hexact _ r).trans ?_⟩
    simp
  · obtain ⟨u', hu', -, hrules'⟩ := afterSaves_tables ht hk saves'
    have hids' : (saves'.map fun x => x.1.id).Nodup := (hperm.map _).nodup_iff.1 hids
    have haccepted : (accepted s saves).Perm (accepted s saves') := by
      rw [accepted_eq_filter ht hk hids, accepted_eq_filter ht hk hids']
      exact hperm.filter _
    have hsame : SameLookups (afterSaves s saves).database (afterSaves s saves').database := by
      refine sameLookups_of_perm hkeyed htables (by rw [hu']) (by rw [hrules, hrules']) ?_
      rw [hrules, hrules']
      exact (haccepted.filterMap _).append_left _
    exact ⟨hsame.recordIssues_eq, hsame.fieldIssues_eq, hsame.transitionIssues_eq⟩

/-- Rules about letters: one that is not in force, one that is, and one whose id is taken. -/
def Letter.saves : List (Rule × Bool) :=
  [(Letter.rule "draft" "author" .required [], false), (Letter.known, true),
    (Letter.rule "titled" "author" .required [], true)]

open Validation in
/-- The rule whose id is taken is refused, and what is found about authors does not depend on the
order. -/
theorem rules_exact_letter :
    ∃ s notes t, Reachable Step.Local s notes ∧ s.database.tables = some t ∧
      (accepted s Letter.saves).map (fun x => x.1.id) = ["draft", "known"] ∧
      (∃ rules, (afterSaves s Letter.saves).database.getFieldRules "letter" "author" = .ok rules ∧
        rules.Pairwise Rule.Before ∧
        ∀ r, r ∈ rules ↔ InForceAfter s t Letter.saves r ∧ r.entityId = "letter" ∧
          r.propertyName = some "author" ∧ r.scope = .field) ∧
      recordIssues (afterSaves s Letter.saves).database =
        recordIssues (afterSaves s Letter.saves.reverse).database := by
  have hreachable : Reachable Step.Local (runAll {} Letter.setUp).2 _ :=
    .of_run ⟨trivial, trivial, trivial⟩
  have htables : (runAll {} Letter.setUp).2.database.tables.isSome = true := by decide +kernel
  obtain ⟨t, ht⟩ := Option.isSome_iff_exists.1 htables
  obtain ⟨hfield, -, horder⟩ := hreachable.rules_exact ht Letter.saves
  obtain ⟨hrecord, -, -⟩ := horder Letter.saves.reverse (List.reverse_perm _).symm (by decide)
  exact ⟨_, _, t, hreachable, ht, by decide +kernel, hfield "letter" "author", hrecord⟩

end RecordRules
