import Mathlib.Order.Bounds.Basic
import RecordRules.Proofs.Measure.Keys
import RecordRules.Proofs.System.Isolation
import RecordRules.Proofs.System.Saving

/-!
# The latest version of a measure

Versions of a measure can be saved in any order, and some of the saves may be refused.  A request
without a version is about the greatest version that was accepted, and about nothing else.

* `Measure.IsLatest` is a measure whose version is the greatest one of its identifier, and
  `findMeasure_of_isLatest` says that it is found.
* `System.acceptedMeasures` are the saves of a run that succeed.  `System.saveMeasure_cases` is the
  step lemma, and `System.afterMeasures_tables` says what a run leaves in the tables.
* `AnsweredAlike`: two requests are answered with the same result or failure, under the same key.
* `Reachable.latest_greatest` is the theorem.
-/

set_option autoImplicit false

namespace RecordRules

/-! ## Finding a measure -/

/-- No measure in the tables with the same identifier has a greater version. -/
structure Measure.IsLatest (t : Tables) (m : Measure) : Prop where
  mem : m ∈ t.measures
  latest : ∀ n ∈ t.measures, n.identifier = m.identifier → n.version ≤ m.version

/-- Of some measures, none has a greater version than the latest. -/
theorem Measure.version_le_latest (m : Measure) (rest : List Measure) :
    ∀ n ∈ m :: rest, n.version ≤ (rest.foldl Database.laterVersion m).version := by
  induction rest generalizing m with
  | nil =>
    intro n hn
    rw [List.mem_singleton.1 hn]
    exact Int.le_refl _
  | cons next rest ih =>
    have hlater : m.version ≤ (Database.laterVersion m next).version ∧
        next.version ≤ (Database.laterVersion m next).version := by
      rw [Database.laterVersion]
      split
      · rename_i hlt
        exact ⟨Int.le_of_lt hlt, Int.le_refl _⟩
      · rename_i hge
        exact ⟨Int.le_refl _, Int.not_lt.1 hge⟩
    have hgreatest := ih (Database.laterVersion m next)
    have hfirst := hgreatest _ List.mem_cons_self
    rw [List.foldl_cons, List.forall_mem_cons, List.forall_mem_cons]
    exact ⟨Int.le_trans hlater.1 hfirst, Int.le_trans hlater.2 hfirst,
      fun n hn => hgreatest n (List.mem_cons_of_mem _ hn)⟩

section Finding

variable {db : Database} {t : Tables} (ht : db.tables = some t) {m : Measure}
include ht

/-- **Without a version, the latest one is found.** -/
theorem findMeasure_of_isLatest (hk : t.Keyed) (hm : m.IsLatest t) :
    findMeasure db m.identifier none = .ok m := by
  have hmem : ∀ {n}, n ∈ t.measures.filter (fun n => n.identifier == m.identifier) ↔
      n ∈ t.measures ∧ n.identifier = m.identifier := by
    simp
  have hread : db.getLatestMeasure m.identifier = .ok (some m) := by
    refine Database.read_eq_ok_iff.2 ⟨t, ht, ?_⟩
    cases hfilter : t.measures.filter fun n => n.identifier == m.identifier with
    | nil => exact absurd (hmem.2 ⟨hm.mem, rfl⟩) (by rw [hfilter]; exact List.not_mem_nil)
    | cons first rest =>
      have hfound := Measure.foldl_laterVersion_mem first rest
      rw [← hfilter, hmem] at hfound
      have hge := Measure.version_le_latest first rest m (hfilter ▸ hmem.2 ⟨hm.mem, rfl⟩)
      have hle := hm.latest _ hfound.1 hfound.2
      have hsame := List.inj_on_of_nodup_map hk.versions hfound.1 hm.mem
        (Prod.ext hfound.2 (Int.le_antisymm hle hge))
      dsimp only
      rw [hsame]
  rw [findMeasure, hread]
  rfl

theorem findMeasure_of_version (hk : t.Keyed) (hm : m ∈ t.measures)
    (hnarrow : isWide m.version = false) :
    findMeasure db m.identifier (some m.version) = .ok m := by
  have hread : db.getMeasure m.identifier m.version = .ok (some m) := by
    refine Database.read_eq_ok_iff.2 ⟨t, ht, ?_⟩
    rw [if_neg (Bool.eq_false_iff.1 hnarrow), hk.measure?_eq_some_iff.2 ⟨hm, rfl, rfl⟩]
  rw [findMeasure, hread]
  rfl

/-- What was never saved is not found, whatever version is asked for. -/
theorem findMeasure_of_missing {identifier : String}
    (hnone : ∀ n ∈ t.measures, n.identifier ≠ identifier) {version : Option Int}
    (hnarrow : ∀ n ∈ version, isWide n = false) :
    findMeasure db identifier version = .error (.fault (Measure.notFound identifier version)) := by
  cases version with
  | none =>
    have hread : db.getLatestMeasure identifier = .ok none := by
      refine Database.read_eq_ok_iff.2 ⟨t, ht, ?_⟩
      rw [List.filter_eq_nil_iff.2 fun n hn => by simpa using hnone n hn]
    rw [findMeasure, hread]
    rfl
  | some version =>
    have hread : db.getMeasure identifier version = .ok none := by
      refine Database.read_eq_ok_iff.2 ⟨t, ht, ?_⟩
      rw [if_neg (Bool.eq_false_iff.1 (hnarrow version rfl)),
        List.find?_eq_none.2 fun n hn => by simp [hnone n hn]]
    rw [findMeasure, hread]
    rfl

end Finding

/-! ## Answers -/

/-- Two requests are answered alike: prepared to the same call, so under the same key, and with the
same result or failure, with any cache or without. -/
structure AnsweredAlike (db : Database) (request : MeasureRequest) (db' : Database)
    (request' : MeasureRequest) : Prop where
  call : prepareMeasure db request.identifier request.version request.parameters =
    prepareMeasure db' request'.identifier request'.version request'.parameters
  alone : ∀ limits, evaluateMeasure db limits request = evaluateMeasure db' limits request'
  cached : ∀ limits cache, evaluateMeasureWith db limits cache request =
    evaluateMeasureWith db' limits cache request'

/-- Requests about one measure for the same parameters are answered alike. -/
theorem AnsweredAlike.of_find_eq {db db' : Database} {identifier : String}
    {version version' : Option Int} (parameters : Fields Value)
    (h : findMeasure db identifier version = findMeasure db' identifier version') :
    AnsweredAlike db ⟨identifier, version, parameters⟩ db' ⟨identifier, version', parameters⟩ := by
  have hcall : prepareMeasure db identifier version parameters =
      prepareMeasure db' identifier version' parameters := by
    rw [prepareMeasure, prepareMeasure, h]
  refine ⟨hcall, fun limits => ?_, fun limits cache => ?_⟩
  · rw [evaluateMeasure, evaluateMeasure, hcall]
  · rw [evaluateMeasureWith, evaluateMeasureWith, hcall]

/-- A result is one of the measure that was found. -/
theorem evaluateMeasure_of_find {db : Database} {limits : Expression.Limits}
    {request : MeasureRequest} {m : Measure} {result : MeasureResult}
    (h : findMeasure db request.identifier request.version = .ok m)
    (hresult : evaluateMeasure db limits request = .ok result) :
    result.identifier = m.identifier ∧ result.version = m.version := by
  obtain ⟨c, hcall, hresult⟩ := bind_eq_ok_iff.1 hresult
  obtain ⟨value, -, hresult⟩ := bind_eq_ok_iff.1 hresult
  rw [prepareMeasure, h, ok_bind] at hcall
  obtain ⟨values, -, hcall⟩ := bind_eq_ok_iff.1 hcall
  obtain ⟨key, -, hcall⟩ := bind_eq_ok_iff.1 hcall
  cases hcall
  cases hresult
  exact ⟨rfl, rfl⟩

/-! ## Saves -/

theorem exists_of_forall₂ {α β : Type} {r : α → β → Prop} {as : List α} {bs : List β}
    (h : List.Forall₂ r as bs) {a : α} (ha : a ∈ as) : ∃ b ∈ bs, r a b := by
  induction h with
  | nil => cases ha
  | cons hfirst _ ih =>
    rcases List.mem_cons.1 ha with rfl | ha
    · exact ⟨_, List.mem_cons_self, hfirst⟩
    · obtain ⟨b, hb, hab⟩ := ih ha
      exact ⟨b, List.mem_cons_of_mem _ hb, hab⟩

namespace System

/-- Whether a measure that is saved is accepted. -/
def acceptsMeasure (s : System) (m : Measure) : Bool :=
  ((Operation.saveMeasure m).run s).1.failure?.isNone

/-- The measures that are accepted when one is saved after the other. -/
def acceptedMeasures : System → List Measure → List Measure
  | _, [] => []
  | s, m :: rest =>
    let others := acceptedMeasures ((Operation.saveMeasure m).run s).2 rest
    if s.acceptsMeasure m then m :: others else others

/-- The system after measures have been saved one after the other. -/
def afterMeasures (s : System) (saves : List Measure) : System :=
  (runAll s (saves.map fun m => .operation (.saveMeasure m))).2

/-- The versions of an identifier that are accepted. -/
def acceptedVersions (s : System) (saves : List Measure) (identifier : String) : Set Int :=
  {version | ∃ m ∈ s.acceptedMeasures saves, m.identifier = identifier ∧ m.version = version}

section Saves

variable {s : System} {t : Tables}

theorem mem_acceptedVersions_iff {saves : List Measure} {identifier : String} {version : Int} :
    version ∈ s.acceptedVersions saves identifier ↔
      (identifier, version) ∈
        (s.acceptedMeasures saves).map fun m => (m.identifier, m.version) := by
  rw [List.mem_map]
  simp only [Prod.mk.injEq]
  exact Iff.rfl

/-- A save adds its row, or it is refused and nothing changes. -/
theorem saveMeasure_cases (ht : s.database.tables = some t) (hk : t.Keyed) (m : Measure) :
    (s.acceptsMeasure m = false ∧ ((Operation.saveMeasure m).run s).2 = s) ∨
      ∃ row, s.acceptsMeasure m = true ∧ m.KeptAs row ∧ isWide m.version = false ∧
        ((Operation.saveMeasure m).run s).2.database.tables =
          some { t with measures := t.measures ++ [row] } ∧
        ({ t with measures := t.measures ++ [row] } : Tables).Keyed := by
  have hkeyed : s.database.Keyed := fun u hu => by
    cases ht.symm.trans hu
    exact hk
  have hinsert : (Operation.saveMeasure m).IsInsert := trivial
  rcases hinsert.run_cases hkeyed with
    ⟨e, he, hsame, -⟩ | ⟨db, hdone, hdb, u, i, hu, -, hadds, rfl⟩
  · exact .inl ⟨by rw [acceptsMeasure, he]; rfl, hsame⟩
  · cases ht.symm.trans hu
    have hk' : (i.apply t).Keyed := Insert.keyed hk hadds.fits
    cases hadds with
    | measure hgiven _ _ hnarrow hstored =>
      have hkept := Measure.stored_keptAs hstored (hgiven ▸ keptUnder_idOr m.id _)
      exact .inr ⟨_, by rw [acceptsMeasure, hdone]; rfl, hkept, hnarrow, by rw [hdb]; rfl, hk'⟩

/-- **What a run of saves leaves in the tables**: the rows of the measures that were accepted. -/
theorem afterMeasures_tables (ht : s.database.tables = some t) (hk : t.Keyed)
    (saves : List Measure) :
    ∃ rows, (s.afterMeasures saves).database.tables =
        some { t with measures := t.measures ++ rows } ∧
      ({ t with measures := t.measures ++ rows } : Tables).Keyed ∧
      List.Forall₂ Measure.KeptAs (s.acceptedMeasures saves) rows ∧
      ∀ m ∈ s.acceptedMeasures saves, isWide m.version = false := by
  induction saves generalizing s t with
  | nil =>
    refine ⟨[], ?_, ?_, .nil, List.forall_mem_nil _⟩
    · rw [List.append_nil]
      exact ht
    · rwa [List.append_nil]
  | cons m rest ih =>
    have hrun : s.afterMeasures (m :: rest) =
        ((Operation.saveMeasure m).run s).2.afterMeasures rest := rfl
    rw [hrun, acceptedMeasures]
    rcases saveMeasure_cases ht hk m with
      ⟨hrefused, hsame⟩ | ⟨row, haccepted, hkept, hnarrow, ht', hk'⟩
    · rw [hrefused, if_neg Bool.false_ne_true, hsame]
      exact ih ht hk
    · obtain ⟨rows, hrows, hkeyed, hkeptAll, hnarrowAll⟩ := ih ht' hk'
      rw [haccepted, if_pos rfl]
      rw [List.append_assoc] at hrows hkeyed
      exact ⟨row :: rows, hrows, hkeyed, .cons hkept hkeptAll,
        List.forall_mem_cons.2 ⟨hnarrow, hnarrowAll⟩⟩

/-- If any version is accepted, one of them is the greatest. -/
theorem exists_isGreatest (s : System) (saves : List Measure) {identifier : String}
    (h : (s.acceptedVersions saves identifier).Nonempty) :
    ∃ newest, IsGreatest (s.acceptedVersions saves identifier) newest := by
  have hmem : ∀ m, m ∈ (s.acceptedMeasures saves).filter (fun m => m.identifier == identifier) ↔
      m ∈ s.acceptedMeasures saves ∧ m.identifier = identifier := by
    simp
  obtain ⟨version, m, hm, hid, -⟩ := h
  obtain ⟨first, rest, hfilter⟩ :=
    List.exists_cons_of_ne_nil (List.ne_nil_of_mem ((hmem m).2 ⟨hm, hid⟩))
  have hlatest := Measure.foldl_laterVersion_mem first rest
  rw [← hfilter, hmem] at hlatest
  refine ⟨_, ⟨_, hlatest.1, hlatest.2, rfl⟩, ?_⟩
  rintro version ⟨n, hn, hid, rfl⟩
  exact Measure.version_le_latest first rest n (hfilter ▸ (hmem n).2 ⟨hn, hid⟩)

/-- **The greatest version that is accepted is the latest in the tables**, if the identifier was new
to them. -/
theorem exists_isLatest {saves rows : List Measure} {identifier : String} {newest : Int}
    (hnew : ∀ m ∈ t.measures, m.identifier ≠ identifier)
    (hkept : List.Forall₂ Measure.KeptAs (s.acceptedMeasures saves) rows)
    (h : IsGreatest (s.acceptedVersions saves identifier) newest) :
    ∃ given m, given ∈ s.acceptedMeasures saves ∧ given.KeptAs m ∧ m.identifier = identifier ∧
      m.version = newest ∧ m.IsLatest { t with measures := t.measures ++ rows } := by
  obtain ⟨⟨given, hgiven, hid, hversion⟩, hgreatest⟩ := h
  obtain ⟨m, hm, hkeptAs⟩ := exists_of_forall₂ hkept hgiven
  refine ⟨given, m, hgiven, hkeptAs, hkeptAs.identifier.trans hid, hkeptAs.version.trans hversion,
    List.mem_append_right _ hm, fun n hn hsame => ?_⟩
  rw [hkeptAs.identifier, hid] at hsame
  rw [hkeptAs.version, hversion]
  rcases List.mem_append.1 hn with hn | hn
  · exact absurd hsame (hnew n hn)
  · obtain ⟨other, hother, hkeptOther⟩ := exists_of_forall₂ hkept.flip hn
    refine hgreatest ⟨other, hother, ?_, hkeptOther.version.symm⟩
    rw [← hkeptOther.identifier, hsame]

end Saves
end System

/-! ## The theorem -/

/-- **A request without a version is about the greatest one that was accepted.**  In a reachable
system, measures are saved one after the other, and some of them may be refused.  Then for every
identifier under which nothing stood before:

* if any of its versions is accepted, one of them is the greatest; a request without a version finds
  what is kept of that one, and is answered like a request for it, whatever the parameters;
* one more save only makes a difference to this if it is of a greater version of the identifier;
* if none is accepted, every request without a version, or with one that the store can hold, is
  answered that there is no such measure. -/
theorem Reachable.latest_greatest {s : System} {notes : List Note}
    (h : Reachable Step.Local s notes) {t : Tables} (ht : s.database.tables = some t)
    (saves : List Measure) (identifier : String)
    (hnew : ∀ m ∈ t.measures, m.identifier ≠ identifier) (parameters : Fields Value) :
    ((s.acceptedVersions saves identifier).Nonempty →
        ∃ newest, IsGreatest (s.acceptedVersions saves identifier) newest) ∧
      (∀ newest, IsGreatest (s.acceptedVersions saves identifier) newest →
        (∃ given m, given ∈ s.acceptedMeasures saves ∧ given.KeptAs m ∧ m.identifier = identifier ∧
          m.version = newest ∧
          findMeasure (s.afterMeasures saves).database identifier none = .ok m) ∧
        AnsweredAlike (s.afterMeasures saves).database ⟨identifier, none, parameters⟩
          (s.afterMeasures saves).database ⟨identifier, some newest, parameters⟩ ∧
        (∀ limits result, evaluateMeasure (s.afterMeasures saves).database limits
            ⟨identifier, none, parameters⟩ = .ok result →
          result.identifier = identifier ∧ result.version = newest) ∧
        ∀ later : Measure, ¬ (later.identifier = identifier ∧ newest < later.version) →
          AnsweredAlike (s.afterMeasures (saves ++ [later])).database
            ⟨identifier, none, parameters⟩ (s.afterMeasures saves).database
            ⟨identifier, none, parameters⟩) ∧
      (s.acceptedVersions saves identifier = ∅ →
        ∀ version : Option Int, (∀ n ∈ version, isWide n = false) →
          (∀ limits, evaluateMeasure (s.afterMeasures saves).database limits
              ⟨identifier, version, parameters⟩ =
            .error (.fault (Measure.notFound identifier version))) ∧
          (∀ limits cache, evaluateMeasureWith (s.afterMeasures saves).database limits cache
              ⟨identifier, version, parameters⟩ =
            (.error (.fault (Measure.notFound identifier version)), cache)) ∧
          (Measure.notFound identifier version).kind = .notFound) := by
  have hk : t.Keyed := h.keyed (fun _ hrequest => hrequest) t ht
  obtain ⟨rows, htables, hkeyed, hkept, hnarrow⟩ := System.afterMeasures_tables ht hk saves
  refine ⟨System.exists_isGreatest s saves, fun newest hnewest => ?_,
    fun hnone version hversion => ?_⟩
  · obtain ⟨given, m, hgiven, hkeptAs, rfl, rfl, hlatest⟩ :=
      System.exists_isLatest hnew hkept hnewest
    have hfind := findMeasure_of_isLatest htables hkeyed hlatest
    refine ⟨⟨given, m, hgiven, hkeptAs, rfl, rfl, hfind⟩, .of_find_eq parameters ?_,
      fun limits result => evaluateMeasure_of_find hfind, fun later hlater => ?_⟩
    · rw [hfind, findMeasure_of_version htables hkeyed hlatest.mem]
      rw [hkeptAs.version]
      exact hnarrow given hgiven
    · have hrun : s.afterMeasures (saves ++ [later]) =
          ((Operation.saveMeasure later).run (s.afterMeasures saves)).2 := by
        rw [System.afterMeasures, List.map_append, runAll_append]
        rfl
      refine .of_find_eq parameters ?_
      rw [hrun, hfind]
      rcases System.saveMeasure_cases htables hkeyed later with
        ⟨-, hsame⟩ | ⟨row, -, hkeptLater, -, htables', hkeyed'⟩
      · rw [hsame, hfind]
      · refine findMeasure_of_isLatest htables' hkeyed' ⟨List.mem_append_left _ hlatest.mem, ?_⟩
        intro n hn hid
        rcases List.mem_append.1 hn with hn | hn
        · exact hlatest.latest n hn hid
        · rw [List.mem_singleton.1 hn] at hid ⊢
          rw [hkeptLater.identifier] at hid
          rw [hkeptLater.version]
          exact Int.not_lt.1 fun hlt => hlater ⟨hid, hlt⟩
  · have hmissing : ∀ n ∈ t.measures ++ rows, n.identifier ≠ identifier := by
      intro n hn hid
      rcases List.mem_append.1 hn with hn | hn
      · exact hnew n hn hid
      · obtain ⟨given, hgiven, hkeptAs⟩ := exists_of_forall₂ hkept.flip hn
        have hmem : given.version ∈ s.acceptedVersions saves identifier :=
          ⟨given, hgiven, hkeptAs.identifier.symm.trans hid, rfl⟩
        rw [hnone] at hmem
        exact hmem
    have hfind := findMeasure_of_missing htables hmissing hversion
    have hcall : prepareMeasure (s.afterMeasures saves).database identifier version parameters =
        .error (.fault (Measure.notFound identifier version)) := by
      rw [prepareMeasure, hfind]
      rfl
    refine ⟨fun limits => ?_, fun limits cache => ?_, Fault.of_kind ..⟩
    · rw [evaluateMeasure, hcall]
      rfl
    · rw [evaluateMeasureWith, hcall]

namespace Bonus

/-- A version of a measure that yields a text. -/
def version (identifier : String) (n : Int) (text : String) : Measure :=
  { id := none, identifier, version := n, name := none, description := none, parameters := []
    expression := text, returnType := .string, unique := List.nodup_nil }

/-- The second version is saved first and cannot be saved again. -/
def saves : List Measure :=
  [version "bonus" 2 "'two'", version "bonus" 1 "'one'", version "bonus" 2 "'other'",
    version "malus" 3 "'three'"]

end Bonus

/-- Of a bonus, the second version is the latest, and saving a version of something else makes no
difference to that; of a discount, there is none. -/
theorem latest_greatest_bonus :
    IsGreatest (System.acceptedVersions {} Bonus.saves "bonus") 2 ∧
      AnsweredAlike (System.afterMeasures {} Bonus.saves).database ⟨"bonus", none, []⟩
        (System.afterMeasures {} Bonus.saves).database ⟨"bonus", some 2, []⟩ ∧
      AnsweredAlike
        (System.afterMeasures {} (Bonus.saves ++ [Bonus.version "malus" 4 "'four'"])).database
        ⟨"bonus", none, []⟩ (System.afterMeasures {} Bonus.saves).database ⟨"bonus", none, []⟩ ∧
      evaluateMeasure (System.afterMeasures {} Bonus.saves).database {} ⟨"discount", some 1, []⟩ =
        .error (.fault (Measure.notFound "discount" (some 1))) := by
  have hreachable : Reachable Step.Local {} [] := .start rfl
  have htables : ({} : System).database.tables = some {} := rfl
  have haccepted :
      ((System.acceptedMeasures {} Bonus.saves).map fun m => (m.identifier, m.version)) =
        [("bonus", 2), ("bonus", 1), ("malus", 3)] := by decide +kernel
  have hversions : ∀ identifier version,
      version ∈ System.acceptedVersions {} Bonus.saves identifier ↔
        (identifier, version) ∈ [("bonus", (2 : Int)), ("bonus", 1), ("malus", 3)] := by
    intro identifier version
    rw [← haccepted]
    exact System.mem_acceptedVersions_iff
  have hgreatest : IsGreatest (System.acceptedVersions {} Bonus.saves "bonus") 2 := by
    refine ⟨(hversions _ _).2 (by decide), fun version hversion => ?_⟩
    have hmem := (hversions _ _).1 hversion
    simp at hmem
    omega
  have hempty : System.acceptedVersions {} Bonus.saves "discount" = ∅ := by
    refine Set.eq_empty_of_forall_notMem fun version hversion => ?_
    simpa using (hversions _ _).1 hversion
  obtain ⟨-, hlatest, -⟩ := hreachable.latest_greatest htables Bonus.saves "bonus"
    (List.forall_mem_nil _) []
  obtain ⟨-, -, hmissing⟩ := hreachable.latest_greatest htables Bonus.saves
    "discount" (List.forall_mem_nil _) []
  obtain ⟨-, halike, -, hlater⟩ := hlatest 2 hgreatest
  exact ⟨hgreatest, halike, hlater (Bonus.version "malus" 4 "'four'") (by decide),
    (hmissing hempty (some 1) (by decide)).1 {}⟩

end RecordRules
