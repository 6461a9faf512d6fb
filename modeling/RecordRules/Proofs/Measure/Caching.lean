import Mathlib.Data.List.Forall2
import RecordRules.Proofs.Expression.Order
import RecordRules.Proofs.Measure.Keys
import RecordRules.Proofs.Measure.Stored

/-!
# Caches do not change answers

A unit of work answers what its requests would be answered one by one without a cache.

* `MeasureCall.Alike.compute`: calls that are alike have values that are alike.
* `Cache.Faithful` is the invariant of a cache: each of its values has been computed for a call with
  its key.  `MeasureCall.Prepared.evaluateWith_same` is the step lemma.
* `evaluateMeasuresWith_same` is the run lemma, and `Reachable.cached_same` the theorem about
  reachable systems.
-/

set_option autoImplicit false

namespace RecordRules

/-! ## Results -/

/-- Two results are answers that are related, or the same failure. -/
inductive Result.Same {α : Type} (r : α → α → Prop) : Result α → Result α → Prop
  | ok {a b : α} (h : r a b) : Same r (.ok a) (.ok b)
  | error (e : Failure) : Same r (.error e) (.error e)

/-- Two results of measures differ at most in the order of the entries of maps. -/
structure MeasureResult.Alike (a b : MeasureResult) : Prop where
  identifier : a.identifier = b.identifier
  version : a.version = b.version
  result : a.result.Alike b.result

/-! ## Calls that are alike -/

theorem Expression.Context.Alike.set {c d : Expression.Context} (h : Expression.Context.Alike c d)
    {v w : Value} (hvw : v.Alike w) (name : String) :
    Expression.Context.Alike (Fields.set c name v) (Fields.set d name w) := by
  intro other
  rw [Fields.get?_set, Fields.get?_set]
  split
  · exact .some hvw
  · exact h other

theorem Measure.context_alike {xs ys : Fields Value}
    (h : List.Forall₂ (fun e e' => e.1 = e'.1 ∧ e.2.Alike e'.2) xs ys) :
    Expression.Context.Alike (Measure.context xs) (Measure.context ys) := by
  refine List.rel_foldl (P := Expression.Context.Alike) ?_ (fun _ => .none) h
  rintro c d hcd ⟨name, v⟩ ⟨_, w⟩ ⟨hname, hvw⟩
  dsimp only at hname hvw
  subst hname
  exact (hcd.set hvw _).set hvw _

namespace MeasureCall

variable {c d : MeasureCall} {limits : Expression.Limits}

/-- The value of a call, computed without a cache. -/
def compute (c : MeasureCall) (limits : Expression.Limits) : Result Value :=
  c.measure.compute limits c.parameters

/-- Calls that are alike have values that are alike. -/
theorem Alike.compute (h : c.Alike d) {v : Value} (hv : c.compute limits = .ok v) :
    ∃ w, d.compute limits = .ok w ∧ v.Alike w := by
  have hagree := Expression.evaluate_alike limits (Measure.context_alike h.parameters)
    d.measure.expression
  rw [MeasureCall.compute, Measure.compute, mapError_eq_ok_iff, h.measure] at hv
  rw [hv] at hagree
  rw [MeasureCall.compute, Measure.compute]
  cases hd : Expression.evaluate limits (Measure.context d.parameters) d.measure.expression with
  | ok w =>
    rw [hd] at hagree
    cases hagree with
    | ok halike => exact ⟨w, rfl, halike⟩
  | error e =>
    rw [hd] at hagree
    cases hagree

end MeasureCall

/-! ## Caches -/

/-- Every value of a cache has been computed for a call with its key. -/
def Cache.Faithful (cache : Cache) (db : Database) (limits : Expression.Limits) : Prop :=
  ∀ key v, cache.entries.get? key = some v → ∃ t ∈ db.tables, ∃ c : MeasureCall, c.Prepared t ∧
    c.key = key ∧ c.compute limits = .ok v

/-- What the keys of a cache depend on: rows under unique keys, measures whose keys are apart, and
defaults in JSON. -/
structure Tables.Cacheable (t : Tables) : Prop where
  keyed : t.Keyed
  apart : Measure.HeadsApart t.measures
  defaults : ∀ m ∈ t.measures, ∀ p ∈ m.parameters, p.default.IsJson

section Evaluation

variable {db : Database} {t : Tables} {limits : Expression.Limits} {cache : Cache}

theorem Cache.Faithful.of_entries_eq {cache' : Cache} (h : cache.Faithful db limits)
    (heq : cache'.entries = cache.entries) : cache'.Faithful db limits := by
  rw [Cache.Faithful, heq]
  exact h

theorem Cache.Faithful.store (h : cache.Faithful db limits) (ht : db.tables = some t)
    {c : MeasureCall} (hc : c.Prepared t) {v : Value} (hv : c.compute limits = .ok v) :
    (cache.store c.key v).Faithful db limits := by
  intro key w hw
  rw [Cache.store, Fields.get?_set] at hw
  split at hw
  · rename_i hkey
    cases hw
    exact ⟨t, ht, c, hc, hkey.symm, hv⟩
  · exact h key w hw

/-- **A cached evaluation answers what a computation would**, and the cache stays faithful. -/
theorem MeasureCall.Prepared.evaluateWith_same (ht : db.tables = some t) (hcacheable : t.Cacheable)
    {c : MeasureCall} (hc : c.Prepared t) (h : cache.Faithful db limits) :
    Result.Same MeasureResult.Alike (c.evaluateWith limits cache).1
        (c.result <$> c.compute limits) ∧
      (c.evaluateWith limits cache).2.Faithful db limits := by
  cases hfound : cache.entries.get? c.key with
  | some v =>
    rw [MeasureCall.evaluateWith_of_kept hfound]
    refine ⟨?_, h.of_entries_eq rfl⟩
    obtain ⟨u, hu, d, hd, hkey, hv⟩ := h c.key v hfound
    rw [ht] at hu
    cases hu
    obtain ⟨w, hw, hvw⟩ :=
      (hd.of_key_eq hcacheable.keyed hcacheable.apart hc hkey).compute hv
    rw [hw]
    exact .ok ⟨rfl, rfl, hvw⟩
  | none =>
    cases hcompute : c.compute limits with
    | ok v =>
      rw [MeasureCall.evaluateWith_of_value hfound hcompute]
      exact ⟨.ok ⟨rfl, rfl, .refl v⟩, h.store ht hc hcompute |>.of_entries_eq rfl⟩
    | error e =>
      rw [MeasureCall.evaluateWith_of_failure hfound hcompute]
      exact ⟨.error e, h.of_entries_eq rfl⟩

variable (hdb : ∀ t ∈ db.tables, t.Cacheable)
include hdb

theorem evaluateMeasureWith_same {request : MeasureRequest}
    (hrequest : ∀ e ∈ request.parameters, e.2.IsJson) (h : cache.Faithful db limits) :
    Result.Same MeasureResult.Alike (evaluateMeasureWith db limits cache request).1
        (evaluateMeasure db limits request) ∧
      (evaluateMeasureWith db limits cache request).2.Faithful db limits := by
  rw [evaluateMeasureWith, evaluateMeasure]
  cases hcall : prepareMeasure db request.identifier request.version request.parameters with
  | error e => exact ⟨.error e, h⟩
  | ok c =>
    obtain ⟨t, ht, hc⟩ :=
      MeasureCall.prepared_of_ok (fun t ht => (hdb t ht).defaults) hrequest hcall
    exact hc.evaluateWith_same ht (hdb t ht) h

/-- **A unit of work answers like its requests one by one**, up to the first that fails. -/
theorem evaluateMeasuresWith_same {requests : List MeasureRequest}
    (hrequests : ∀ r ∈ requests, ∀ e ∈ r.parameters, e.2.IsJson)
    (h : cache.Faithful db limits) :
    Result.Same (List.Forall₂ MeasureResult.Alike)
      (evaluateMeasuresWith db limits cache requests).1
      (requests.mapM (evaluateMeasure db limits)) := by
  induction requests generalizing cache with
  | nil => exact .ok .nil
  | cons request rest ih =>
    rw [List.forall_mem_cons] at hrequests
    rw [evaluateMeasuresWith, List.mapM_cons]
    obtain ⟨hfirst, hfaithful⟩ := evaluateMeasureWith_same hdb hrequests.1 h
    generalize evaluateMeasureWith db limits cache request = evaluated at hfirst hfaithful
    generalize evaluateMeasure db limits request = alone at hfirst
    obtain ⟨answer, asked⟩ := evaluated
    cases hfirst with
    | error e => exact .error e
    | ok hfirst =>
      have hrest := ih hrequests.2 hfaithful
      dsimp only
      generalize evaluateMeasuresWith db limits asked rest = evaluated at hrest
      generalize rest.mapM (evaluateMeasure db limits) = alone at hrest
      obtain ⟨answers, last⟩ := evaluated
      cases hrest with
      | error e => exact .error e
      | ok hrest => exact .ok (.cons hfirst hrest)

end Evaluation

/-! ## Reachable systems -/

/-- **The cache of a unit of work never changes an answer**, as long as no key runs on into another.
Whatever steps have led to a system, and whatever measures they have saved: evaluating a list of
requests with a cache that is empty at first gives the answers of the requests one by one without a
cache, up to the order of entries in maps, and it fails where one of them fails, for the same
reason. -/
theorem Reachable.cached_same {p : Step → Prop} (hp : ∀ r, ¬ p (.request r))
    (hsaved : ∀ m, p (.operation (.saveMeasure m)) → m.JsonDefaults) {s : System}
    {notes : List Note} (h : Reachable p s notes)
    (hapart : ∀ t ∈ s.database.tables, Measure.HeadsApart t.measures)
    (limits : Expression.Limits) {cache : Cache} (hempty : cache.entries = [])
    {requests : List MeasureRequest}
    (hrequests : ∀ r ∈ requests, ∀ e ∈ r.parameters, e.2.IsJson) :
    Result.Same (List.Forall₂ MeasureResult.Alike)
      (evaluateMeasuresWith s.database limits cache requests).1
      (requests.mapM (evaluateMeasure s.database limits)) := by
  refine evaluateMeasuresWith_same (fun t ht => ⟨h.keyed hp t ht, hapart t ht,
    h.jsonDefaults hp hsaved t ht⟩) hrequests ?_
  rw [Cache.Faithful, hempty]
  nofun

/-! ## Measures of one parameter -/

namespace Single

/-- A measure of one parameter. -/
def measure (identifier : String) (version : Int) (parameter expression : String) : Measure :=
  { id := none, identifier, version, name := none, description := none
    parameters := [⟨parameter, .null, none⟩], expression, returnType := .string
    unique := List.nodup_singleton parameter }

/-- A measure that shows its parameter. -/
def setUp : List Step := [.operation (.saveMeasure (measure "shown" 1 "x" "x"))]

/-- The same value twice. -/
def twice : List MeasureRequest :=
  [⟨"shown", some 1, [("x", .list [.null, .text "a"])]⟩,
   ⟨"shown", none, [("x", .list [.null, .text "a"])]⟩]

/-- The key of a parameter `2:x` in version 1 of `m` reads like that of a parameter `x` in version 2
of `m:1`. -/
def runningOn : List Step :=
  [.operation (.saveMeasure (measure "m" 1 "2:x" "'a'")),
   .operation (.saveMeasure (measure "m:1" 2 "x" "'b'"))]

/-- Both measures for the same number. -/
def both : List MeasureRequest :=
  [⟨"m", some 1, [("2:x", .int 5)]⟩, ⟨"m:1", some 2, [("x", .int 5)]⟩]

/-- What results show. -/
def shown (r : Result (List MeasureResult)) : Option (List (String × Int × String)) :=
  r.toOption.map fun results => results.map fun m => (m.identifier, m.version, m.result.written)

end Single

/-- The second request is answered from the cache, with what it would be answered alone. -/
theorem cached_same_twice :
    (evaluateMeasuresWith (runAll {} Single.setUp).2.database {} {} Single.twice).2.hits = 1 ∧
      Result.Same (List.Forall₂ MeasureResult.Alike)
        (evaluateMeasuresWith (runAll {} Single.setUp).2.database {} {} Single.twice).1
        (Single.twice.mapM (evaluateMeasure (runAll {} Single.setUp).2.database {})) := by
  have hreachable : Reachable (· ∈ Single.setUp) (runAll {} Single.setUp).2
      (notesAll Single.setUp (runAll {} Single.setUp).1) :=
    .of_run ⟨List.mem_singleton_self _, trivial⟩
  have hsaved : ∀ m, Step.operation (.saveMeasure m) ∈ Single.setUp → m.JsonDefaults := by
    intro m hm p hp
    cases List.mem_singleton.1 hm
    cases List.mem_singleton.1 hp
    trivial
  have hcolon : ((runAll {} Single.setUp).2.database.tables.all fun t =>
      t.measures.all fun m => !m.identifier.toList.contains ':') = true := by decide +kernel
  have hapart : ∀ t ∈ (runAll {} Single.setUp).2.database.tables,
      Measure.HeadsApart t.measures := by
    intro t ht
    rw [ht] at hcolon
    refine Measure.headsApart_of_no_colon fun m hm => ?_
    simpa using List.all_eq_true.1 hcolon m hm
  have hjson : ∀ r ∈ Single.twice, ∀ e ∈ r.parameters, e.2.IsJson := by
    have hlist : (Value.list [.null, .text "a"]).IsJson :=
      ⟨trivial, show Text.Told "a" by decide, trivial⟩
    simpa [Single.twice] using hlist
  exact ⟨by decide +kernel,
    hreachable.cached_same (by simp [Single.setUp]) hsaved hapart {} rfl hjson⟩

/-- Where one key runs on into another, the cache answers for the wrong measure. -/
theorem cached_differs_running_on :
    Single.shown
          (evaluateMeasuresWith (runAll {} Single.runningOn).2.database {} {} Single.both).1 =
        some [("m", 1, "'a'"), ("m:1", 2, "'a'")] ∧
      Single.shown
          (Single.both.mapM (evaluateMeasure (runAll {} Single.runningOn).2.database {})) =
        some [("m", 1, "'a'"), ("m:1", 2, "'b'")] := by
  decide +kernel

end RecordRules
