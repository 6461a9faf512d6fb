import RecordRules.Proofs.Measure.Stored
import RecordRules.Proofs.Measure.Keys
import RecordRules.Proofs.System.Exactness
import RecordRules.Proofs.Value.Names

/-!
# What a cache has counted

A cache is opened for a unit of work, and then operations are carried out, some of which evaluate
measures with it.  Whatever they are and however they end, its counts tell how many evaluations have
asked it, and how many of them have failed.

* `Evaluation` is a single evaluation with a cache, and `Evaluation.outcome` is the step lemma: all
  that it can do to the cache.
* `Evaluation.Chain` says that each of some evaluations begins with the cache that the one before
  has left.  `Operation.chain` and `System.chain` show this for operations that leave a cache to
  evaluations.
* `Evaluation.Chain.counts` and `Evaluation.Chain.answers` are the run lemmas.
* `Reachable.cache_accounts` is the theorem.
-/

set_option autoImplicit false

namespace RecordRules

/-! ## Answers of a cache -/

/-- Under a key, the cache answers with a value, whatever measure is evaluated: its expression makes
no difference. -/
def Cache.Answers (cache : Cache) (key : String) (value : Value) : Prop :=
  ∀ (c : MeasureCall) (limits : Expression.Limits), c.key = key →
    c.evaluateWith limits cache = (.ok (c.result value), { cache with hits := cache.hits + 1 })

theorem Cache.answers_of_kept {cache : Cache} {key : String} {value : Value}
    (h : cache.entries.get? key = some value) : cache.Answers key value := by
  intro c limits hkey
  exact MeasureCall.evaluateWith_of_kept (hkey ▸ h)

/-! ## A single evaluation -/

/-- An evaluation of a measure with a cache, as it finds it. -/
structure Evaluation where
  database : Database
  limits : Expression.Limits
  request : MeasureRequest
  before : Cache

namespace Evaluation

/-- The measure with its settled parameters and its key. -/
def call (e : Evaluation) : Result MeasureCall :=
  prepareMeasure e.database e.request.identifier e.request.version e.request.parameters

/-- What is answered, and the cache as it is left. -/
def run (e : Evaluation) : Result MeasureResult × Cache :=
  evaluateMeasureWith e.database e.limits e.before e.request

/-- What is answered. -/
def answer (e : Evaluation) : Result MeasureResult := e.run.1

/-- The cache as it is left. -/
def after (e : Evaluation) : Cache := e.run.2

/-- Whether the measure is found and all of its parameters have a value. -/
def settles (e : Evaluation) : Bool :=
  match findMeasure e.database e.request.identifier e.request.version with
  | .ok m => (m.resolve e.request.parameters).isOk
  | .error _ => false

/-- Whether there is no result. -/
def failed (e : Evaluation) : Bool := !e.answer.isOk

/-- Once the parameters are settled, they can be written in a key. -/
def Keyed (e : Evaluation) : Prop := e.settles = true → ∃ c, e.call = .ok c

/-- What an evaluation can come to. -/
inductive Outcome (e : Evaluation) : Prop
  /-- It fails before the cache is asked. -/
  | unsettled {failure : Failure} (hsettles : e.settles = false) (hcall : e.call = .error failure)
      (hrun : e.run = (.error failure, e.before))
  /-- The cache has the value. -/
  | known {c : MeasureCall} {value : Value} (hsettles : e.settles = true) (hcall : e.call = .ok c)
      (hkept : e.before.entries.get? c.key = some value)
      (hrun : e.run = (.ok (c.result value), { e.before with hits := e.before.hits + 1 }))
  /-- The value is new, and kept. -/
  | computed {c : MeasureCall} {value : Value} (hsettles : e.settles = true)
      (hcall : e.call = .ok c) (hnew : e.before.entries.get? c.key = none)
      (hrun : e.run =
        (.ok (c.result value),
          { e.before with
            misses := e.before.misses + 1, entries := e.before.entries.set c.key value }))
  /-- The expression fails. -/
  | broken {c : MeasureCall} {failure : Failure} (hsettles : e.settles = true)
      (hcall : e.call = .ok c)
      (hrun : e.run = (.error failure, { e.before with misses := e.before.misses + 1 }))

variable {e : Evaluation}

theorem run_of_call {c : MeasureCall} (h : e.call = .ok c) :
    e.run = c.evaluateWith e.limits e.before := by
  rw [call] at h
  rw [run, evaluateMeasureWith, h]

theorem run_of_refusal {failure : Failure} (h : e.call = .error failure) :
    e.run = (.error failure, e.before) := by
  rw [call] at h
  rw [run, evaluateMeasureWith, h]

theorem settles_of_call {c : MeasureCall} (h : e.call = .ok c) : e.settles = true := by
  obtain ⟨m, hm, h⟩ := bind_eq_ok_iff.1 h
  obtain ⟨values, hvalues, -⟩ := bind_eq_ok_iff.1 h
  rw [settles, hm]
  exact isOk_iff.2 ⟨values, mapError_eq_ok_iff.1 hvalues⟩

/-- **What an evaluation does.**  It fails before the cache is asked, or it asks once; then it is
answered, or computes a value that it keeps, or fails and keeps nothing. -/
theorem outcome (hkeyed : e.Keyed) : e.Outcome := by
  cases hcall : e.call with
  | error failure =>
    refine .unsettled (Bool.eq_false_iff.2 fun hsettles => ?_) hcall (run_of_refusal hcall)
    obtain ⟨c, hc⟩ := hkeyed hsettles
    rw [hcall] at hc
    cases hc
  | ok c =>
    have hsettles := settles_of_call hcall
    have hrun := run_of_call hcall
    cases hkept : e.before.entries.get? c.key with
    | some value =>
      exact .known hsettles hcall hkept (hrun.trans (MeasureCall.evaluateWith_of_kept hkept))
    | none =>
      cases hvalue : c.measure.compute e.limits c.parameters with
      | ok value =>
        exact .computed hsettles hcall hkept
          (hrun.trans (MeasureCall.evaluateWith_of_value hkept hvalue))
      | error failure =>
        exact .broken hsettles hcall
          (hrun.trans (MeasureCall.evaluateWith_of_failure hkept hvalue))

/-- **What an evaluation adds to the counts**: it asks once if it is settled, and if it has to
compute a value, it keeps that or fails. -/
theorem counts (hkeyed : e.Keyed) :
    e.after.hits + e.after.misses =
        e.before.hits + e.before.misses + (if e.settles = true then 1 else 0) ∧
      e.after.misses + e.before.size =
        e.before.misses + e.after.size + (if (e.settles && e.failed) = true then 1 else 0) := by
  rw [failed, answer, after]
  cases outcome hkeyed with
  | unsettled hsettles _ hrun =>
    rw [hsettles, hrun]
    exact ⟨rfl, rfl⟩
  | known hsettles _ _ hrun =>
    rw [hsettles, hrun]
    exact ⟨Nat.add_right_comm _ _ _, rfl⟩
  | @computed c value hsettles _ hnew hrun =>
    rw [hsettles, hrun]
    refine ⟨rfl, ?_⟩
    dsimp only [Cache.size]
    rw [Fields.length_set_of_new hnew]
    exact Nat.add_right_comm _ _ _
  | broken hsettles _ hrun =>
    rw [hsettles, hrun]
    exact ⟨rfl, Nat.add_right_comm _ _ _⟩

/-- One that fails keeps no value. -/
theorem entries_of_failed (hkeyed : e.Keyed) (h : e.failed = true) :
    e.after.entries = e.before.entries := by
  rw [failed, answer] at h
  rw [after]
  cases outcome hkeyed with
  | unsettled _ _ hrun => rw [hrun]
  | known _ _ _ hrun =>
    rw [hrun] at h
    cases h
  | computed _ _ _ hrun =>
    rw [hrun] at h
    cases h
  | broken _ _ hrun => rw [hrun]

/-- One that has a result leaves its value under its key. -/
theorem kept_of_answer {c : MeasureCall} {result : MeasureResult} (hcall : e.call = .ok c)
    (hanswer : e.answer = .ok result) : e.after.entries.get? c.key = some result.result := by
  have hrun : c.evaluateWith e.limits e.before = (.ok result, e.after) := by
    rw [← run_of_call hcall, ← hanswer]
    rfl
  exact (MeasureCall.kept_of_evaluateWith hrun).1

/-- What is kept stays. -/
theorem keeps (hkeyed : e.Keyed) {key : String} {value : Value}
    (h : e.before.entries.get? key = some value) : e.after.entries.get? key = some value := by
  rw [after]
  cases outcome hkeyed with
  | unsettled _ _ hrun => rwa [hrun]
  | known _ _ _ hrun => rwa [hrun]
  | computed _ _ hnew hrun =>
    rw [hrun, Fields.get?_set, if_neg]
    · exact h
    · rintro rfl
      rw [h] at hnew
      cases hnew
  | broken _ _ hrun => rwa [hrun]

/-! ## Evaluations one after the other -/

/-- Each evaluation begins with the cache that the one before has left. -/
inductive Chain : Cache → List Evaluation → Cache → Prop
  | nil (cache : Cache) : Chain cache [] cache
  | cons (e : Evaluation) {rest : List Evaluation} {last : Cache} (h : Chain e.after rest last) :
    Chain e.before (e :: rest) last

namespace Chain

variable {first last : Cache} {es : List Evaluation}

theorem append {more : List Evaluation} {next : Cache} (h : Chain first es next)
    (h' : Chain next more last) : Chain first (es ++ more) last := by
  induction h with
  | nil => exact h'
  | cons e _ ih => exact .cons e (ih h')

variable (hkeyed : ∀ e ∈ es, e.Keyed)
include hkeyed

/-- **What evaluations add to the counts**, one after the other. -/
theorem counts (h : Chain first es last) :
    last.hits + last.misses = first.hits + first.misses + es.countP settles ∧
      last.misses + first.size =
        first.misses + last.size + es.countP fun e => e.settles && e.failed := by
  induction h with
  | nil => exact ⟨rfl, rfl⟩
  | cons e _ ih =>
    rw [List.forall_mem_cons] at hkeyed
    have hfirst := e.counts hkeyed.1
    have hrest := ih hkeyed.2
    rw [List.countP_cons, List.countP_cons]
    omega

/-- What is kept stays for all evaluations that follow. -/
theorem keeps (h : Chain first es last) {key : String} {value : Value}
    (hkept : first.entries.get? key = some value) :
    (∀ e ∈ es, e.before.entries.get? key = some value) ∧ last.entries.get? key = some value := by
  induction h with
  | nil => exact ⟨List.forall_mem_nil _, hkept⟩
  | cons e _ ih =>
    rw [List.forall_mem_cons] at hkeyed ⊢
    obtain ⟨hrest, hlast⟩ := ih hkeyed.2 (e.keeps hkeyed.1 hkept)
    exact ⟨⟨hkept, hrest⟩, hlast⟩

/-- **A value that was answered once is answered from then on**, without being computed again. -/
theorem answers (h : Chain first es last) {earlier later : List Evaluation} {e : Evaluation}
    (hes : es = earlier ++ e :: later) {c : MeasureCall} {result : MeasureResult}
    (hcall : e.call = .ok c) (hanswer : e.answer = .ok result) :
    (∀ e' ∈ later, e'.before.Answers c.key result.result) ∧ last.Answers c.key result.result := by
  induction h generalizing earlier with
  | nil => exact absurd hes (by simp)
  | @cons e₀ rest last hchain ih =>
    rw [List.forall_mem_cons] at hkeyed
    cases earlier with
    | nil =>
      obtain ⟨rfl, rfl⟩ := List.cons.inj hes
      obtain ⟨hlater, hlast⟩ := hchain.keeps hkeyed.2 (e₀.kept_of_answer hcall hanswer)
      exact ⟨fun e' he' => Cache.answers_of_kept (hlater e' he'), Cache.answers_of_kept hlast⟩
    | cons e₁ earlier => exact ih hkeyed.2 (List.cons.inj hes).2

end Chain

/-! ## Evaluations of an operation -/

/-- The evaluations of some requests in order, up to the first that fails. -/
def inTurn (database : Database) (limits : Expression.Limits) :
    Cache → List MeasureRequest → List Evaluation
  | _, [] => []
  | before, request :: rest =>
    let e : Evaluation := { database, limits, request, before }
    e :: if e.failed then [] else inTurn database limits e.after rest

theorem mem_inTurn {db : Database} {limits : Expression.Limits} {cache : Cache}
    {requests : List MeasureRequest} {e : Evaluation} (h : e ∈ inTurn db limits cache requests) :
    e.database = db ∧ e.request ∈ requests := by
  induction requests generalizing cache with
  | nil => cases h
  | cons request rest ih =>
    rw [inTurn] at h
    rcases List.mem_cons.1 h with rfl | h
    · exact ⟨rfl, List.mem_cons_self⟩
    · split at h
      · cases h
      · obtain ⟨hdb, hrequest⟩ := ih h
        exact ⟨hdb, List.mem_cons_of_mem _ hrequest⟩

/-- **Evaluating measures in order is a chain of evaluations**, which are answered what is answered
in all. -/
theorem chain_inTurn (db : Database) (limits : Expression.Limits) (cache : Cache)
    (requests : List MeasureRequest) :
    Chain cache (inTurn db limits cache requests)
        (evaluateMeasuresWith db limits cache requests).2 ∧
      (evaluateMeasuresWith db limits cache requests).1 =
        (inTurn db limits cache requests).mapM answer := by
  induction requests generalizing cache with
  | nil => exact ⟨.nil cache, rfl⟩
  | cons request rest ih =>
    let e : Evaluation := { database := db, limits, request, before := cache }
    have hrun : evaluateMeasureWith db limits cache request = (e.answer, e.after) := rfl
    have hturn : inTurn db limits cache (request :: rest) =
        e :: if e.failed then [] else inTurn db limits e.after rest := rfl
    rw [evaluateMeasuresWith, hrun, hturn, failed]
    cases hanswer : e.answer with
    | error failure =>
      refine ⟨.cons e (.nil e.after), ?_⟩
      rw [List.mapM_cons, hanswer]
      rfl
    | ok first =>
      obtain ⟨hchain, hanswers⟩ := ih e.after
      refine ⟨.cons e hchain, ?_⟩
      rw [if_neg (by simp [Except.isOk, Except.toBool]), List.mapM_cons, hanswer, ← hanswers]
      rfl

end Evaluation

/-- A request by itself leaves the cache as it would among others. -/
theorem evaluateMeasuresWith_singleton (db : Database) (limits : Expression.Limits) (cache : Cache)
    (request : MeasureRequest) :
    (evaluateMeasuresWith db limits cache [request]).2 =
      (evaluateMeasureWith db limits cache request).2 := by
  rw [evaluateMeasuresWith]
  split <;> (rename_i hrun; rw [hrun])
  rfl

namespace Operation

/-- The requests that an operation has evaluated with the cache of a name. -/
def requestsWith (name : String) : Operation → List MeasureRequest
  | .measure request (some other) => if other = name then [request] else []
  | .measures requests (some other) => if other = name then requests else []
  | _ => []

/-- The evaluations of an operation with the cache of a name. -/
def evaluations (name : String) (s : System) (o : Operation) : List Evaluation :=
  Evaluation.inTurn s.database s.limits (s.cache name) (o.requestsWith name)

/-- The operation opens or clears the cache of a name, or works on it directly. -/
def Handles (name : String) : Operation → Prop
  | .openCache other | .clearCache other | .askCache other _ | .keepInCache other _ _ =>
    other = name
  | _ => False

end Operation

theorem System.cache_withCache (s : System) (name other : String) (c : Cache) :
    (s.withCache other c).cache name = if other = name then c else s.cache name := by
  rw [cache, withCache, Fields.get?_set]
  by_cases h : other = name
  · rw [if_pos h, if_pos h.symm]
    rfl
  · rw [if_neg h, if_neg (Ne.symm h)]
    rfl

/-- **An operation leaves a cache to its evaluations**, unless it handles the cache itself. -/
theorem Operation.chain {name : String} {s : System} {o : Operation} (h : ¬ o.Handles name) :
    Evaluation.Chain (s.cache name) (o.evaluations name s) ((o.run s).2.cache name) := by
  have hchanges : ∀ r : Result Database,
      Evaluation.Chain (s.cache name) [] ((changes s r).2.cache name) := by
    intro r
    rcases changes_cases s r with h | ⟨db, -, h⟩ <;> rw [h] <;> exact .nil _
  have hother : ∀ {other : String} (c : Cache), other ≠ name →
      Evaluation.Chain (s.cache name) [] ((s.withCache other c).cache name) := fun c hne => by
    rw [System.cache_withCache, if_neg hne]
    exact .nil _
  cases o with
  | measure request cache =>
    cases cache with
    | none => exact .nil _
    | some other =>
      rw [evaluations, requestsWith]
      split
      · rename_i heq
        subst heq
        have hleft : ((run s (.measure request (some other))).2).cache other =
            (evaluateMeasureWith s.database s.limits (s.cache other) request).2 :=
          (System.cache_withCache ..).trans (if_pos rfl)
        rw [hleft, ← evaluateMeasuresWith_singleton]
        exact (Evaluation.chain_inTurn ..).1
      · exact hother _ ‹_›
  | measures requests cache =>
    cases cache with
    | none => exact .nil _
    | some other =>
      rw [evaluations, requestsWith]
      split
      · rename_i heq
        subst heq
        have hleft : ((run s (.measures requests (some other))).2).cache other =
            (evaluateMeasuresWith s.database s.limits (s.cache other) requests).2 :=
          (System.cache_withCache ..).trans (if_pos rfl)
        rw [hleft]
        exact (Evaluation.chain_inTurn ..).1
      · exact hother _ ‹_›
  | saveEntity e => exact hchanges _
  | saveRule r active => exact hchanges _
  | saveMeasure m =>
    rw [run]
    split <;> exact .nil _
  | saveWorkflow w => exact hchanges _
  | createRecord n =>
    rw [run, System.created.eq_def]
    split <;> exact .nil _
  | assignRole actor role => exact hchanges _
  | validateRecord entityId data event previous =>
    rcases checked_cases s (Validation.recordIssues s.database s.checker entityId data event
      previous) with h | ⟨issues, checker, hok, h⟩ <;> rw [run, h] <;> exact .nil _
  | validateField entityId propertyName value data =>
    rcases checked_cases s (Validation.fieldIssues s.database s.checker entityId propertyName value
      data) with h | ⟨issues, checker, hok, h⟩ <;> rw [run, h] <;> exact .nil _
  | createTables => exact hchanges _
  | dropTables => exact hchanges _
  | migrate =>
    rw [run]
    split <;> exact .nil _
  | openCache other => exact hother _ h
  | clearCache other => exact hother _ h
  | askCache other key => exact hother _ h
  | keepInCache other key value => exact hother _ h
  | _ => exact .nil _

namespace System

/-- The evaluations with the cache of a name while operations are carried out. -/
def evaluations (name : String) : System → List Operation → List Evaluation
  | _, [] => []
  | s, o :: rest => o.evaluations name s ++ evaluations name (o.run s).2 rest

/-- The system after operations have been carried out one after the other. -/
def afterOperations (s : System) (os : List Operation) : System :=
  (runAll s (os.map .operation)).2

/-- **Operations leave a cache to their evaluations**, one after the other. -/
theorem chain {name : String} {os : List Operation} (hos : ∀ o ∈ os, ¬ o.Handles name)
    (s : System) :
    Evaluation.Chain (s.cache name) (s.evaluations name os)
      ((s.afterOperations os).cache name) := by
  induction os generalizing s with
  | nil => exact .nil _
  | cons o rest ih =>
    rw [List.forall_mem_cons] at hos
    exact (Operation.chain hos.1).append (ih hos.2 (o.run s).2)

end System

/-- Every evaluation is one of a request of an operation, in a system that is reached. -/
theorem Reachable.of_mem_evaluations {p : Step → Prop} {s : System} {notes : List Note}
    (h : Reachable p s notes) {name : String} {os : List Operation}
    (hos : ∀ o ∈ os, (Step.operation o).Throughout p) {e : Evaluation}
    (he : e ∈ s.evaluations name os) :
    (∃ u more, Reachable p u more ∧ e.database = u.database) ∧
      ∃ o ∈ os, e.request ∈ o.requestsWith name := by
  induction os generalizing s notes with
  | nil => cases he
  | cons o rest ih =>
    rw [List.forall_mem_cons] at hos
    rw [System.evaluations] at he
    rcases List.mem_append.1 he with he | he
    · obtain ⟨hdb, hrequest⟩ := Evaluation.mem_inTurn he
      exact ⟨⟨s, notes, h, hdb⟩, o, List.mem_cons_self, hrequest⟩
    · obtain ⟨hreached, other, hother, hrequest⟩ := ih (h.step hos.1) hos.2 he
      exact ⟨hreached, other, List.mem_cons_of_mem _ hother, hrequest⟩

theorem Measure.exists_cacheKey (identifier : String) (version : Int) {values : Fields Value}
    (h : ∀ f ∈ values, f.2.hasHugeInt = false) :
    ∃ key, cacheKey identifier version values = .ok key := by
  rw [cacheKey, if_neg]
  · exact ⟨_, rfl⟩
  · rw [Bool.not_eq_true, List.any_eq_false]
    exact fun f hf => Bool.eq_false_iff.1 (h f hf)

/-- **Settled parameters can be written in a key** if the defaults and what is supplied can be
written. -/
theorem Evaluation.keyed_of_writable {e : Evaluation}
    (hdefaults : ∀ t ∈ e.database.tables, ∀ m ∈ t.measures, ∀ p ∈ m.parameters,
      p.default.hasHugeInt = false)
    (hsupplied : ∀ f ∈ e.request.parameters, f.2.hasHugeInt = false) : e.Keyed := by
  intro hsettles
  rw [settles] at hsettles
  split at hsettles
  · rename_i m hm
    obtain ⟨values, hvalues⟩ := isOk_iff.1 hsettles
    obtain ⟨t, ht, hmem⟩ := Measure.findMeasure_mem hm
    have hwritable : ∀ f ∈ values, f.2.hasHugeInt = false := by
      rw [Measure.resolveFrom_eq_ok hvalues]
      exact List.forall_mem_map.2 fun p hp =>
        Measure.settled_of_forall (P := fun v => v.hasHugeInt = false) rfl
          (hdefaults t ht m hmem p hp) hsupplied
    obtain ⟨key, hkey⟩ := Measure.exists_cacheKey m.identifier m.version hwritable
    refine ⟨⟨m, values, key⟩, ?_⟩
    rw [call, prepareMeasure, hm, ok_bind, hvalues, mapError_ok, ok_bind, hkey]
    rfl
  · cases hsettles

/-! ## The theorem -/

/-- The counts of a cache, and what it keeps, agree with the evaluations that it was used for. -/
structure Cache.Accounts (cache : Cache) (es : List Evaluation) : Prop where
  /-- It was asked once by each evaluation that had found its measure and settled all parameters. -/
  asked : cache.hits + cache.misses = es.countP Evaluation.settles
  /-- Of those that it could not answer, each has left a value or failed. -/
  missed : cache.misses = cache.size + es.countP fun e => e.settles && e.failed
  /-- One that failed has left no value. -/
  failures : ∀ e ∈ es, e.failed = true → e.after.entries = e.before.entries
  /-- After one that had a result, the cache answers for its key. -/
  results : ∀ earlier e later, es = earlier ++ e :: later → ∀ c result, e.call = .ok c →
    e.answer = .ok result →
      (∀ e' ∈ later, e'.before.Answers c.key result.result) ∧ cache.Answers c.key result.result

/-- **The accounts of a cache are exact.**  In a reachable system, a cache is opened, and then
operations are carried out that leave it to evaluations, which are of any measures and with any
parameters that can be written.  Each evaluation begins with the cache that the one before has left,
and whatever they come to:

* as many of them have asked the cache as have found their measure and settled its parameters;
* those that it could not answer have failed, or each has left a value of its own;
* a value that was computed once is never computed again.

Wherever the unit of work is left, the cache is then empty and marked as cleared, and its counts
stay. -/
theorem Reachable.cache_accounts {s : System} {notes : List Note}
    (h : Reachable Step.Local s notes) (name : String) (os : List Operation)
    (hos : ∀ o ∈ os, ¬ o.Handles name)
    (hwritable : ∀ o ∈ os, ∀ r ∈ o.requestsWith name, ∀ f ∈ r.parameters,
      f.2.hasHugeInt = false) :
    let opened := ((Operation.openCache name).run s).2
    let es := opened.evaluations name os
    let worked := opened.afterOperations os
    Evaluation.Chain {} es (worked.cache name) ∧ (worked.cache name).Accounts es ∧
      ((Operation.clearCache name).run worked).2.cache name =
        { worked.cache name with entries := [], cleared := true } := by
  intro opened es worked
  have hfresh : opened.cache name = {} := (System.cache_withCache ..).trans (if_pos rfl)
  have hchain : Evaluation.Chain {} es (worked.cache name) := hfresh ▸ opened.chain hos
  have hopen : (Step.operation (.openCache name)).Throughout Step.Local := trivial
  have hkeyed : ∀ e ∈ es, e.Keyed := by
    intro e he
    obtain ⟨⟨u, more, hu, hdb⟩, o, ho, hrequest⟩ :=
      (h.step hopen).of_mem_evaluations (fun _ _ => trivial) he
    refine Evaluation.keyed_of_writable ?_ (hwritable o ho e.request hrequest)
    rw [hdb]
    exact hu.writableDefaults fun _ hrequest => hrequest
  obtain ⟨hasked, hmissed⟩ := hchain.counts hkeyed
  refine ⟨hchain, ⟨?_, ?_, fun e he => e.entries_of_failed (hkeyed e he), ?_⟩, ?_⟩
  · simpa using hasked
  · simpa [Cache.size] using hmissed
  · intro earlier e later hes c result
    exact hchain.answers hkeyed hes
  · exact (System.cache_withCache ..).trans (if_pos rfl)

namespace Receipt

/-- A measure of one parameter. -/
def measure (identifier expression : String) : Measure :=
  { id := none, identifier, version := 1, name := none, description := none
    parameters := [⟨"note", .null, none⟩], expression, returnType := .string
    unique := List.nodup_singleton "note" }

/-- A request with a note. -/
def request (identifier note : String) : MeasureRequest :=
  ⟨identifier, none, [("note", .text note)]⟩

/-- A receipt can be shown, but nothing is known of its total; and it has to have a note. -/
def operations : List Operation :=
  [.saveMeasure (measure "receipt" "note"), .saveMeasure (measure "total" "sum(items)"),
    .measures [request "receipt" "paid", request "receipt" "paid", request "total" "paid",
      request "receipt" "due"] (some "till"),
    .measure ⟨"receipt", none, []⟩ (some "till")]

/-- The system while the till is open. -/
def opened : System := ((Operation.openCache "till").run {}).2

/-- The cache at the end of the day. -/
def till : Cache := (opened.afterOperations operations).cache "till"

end Receipt

/-- Of four evaluations, three have asked the cache: one was answered, one has left a value, and one
has failed; the fifth was never begun. -/
theorem cache_accounts_receipt :
    Receipt.till.Accounts (Receipt.opened.evaluations "till" Receipt.operations) ∧
      (Receipt.opened.evaluations "till" Receipt.operations).length = 4 ∧
      (Receipt.opened.evaluations "till" Receipt.operations).countP Evaluation.settles = 3 ∧
      Receipt.till.hits = 1 ∧ Receipt.till.misses = 2 ∧ Receipt.till.size = 1 := by
  have hreachable : Reachable Step.Local {} [] := .start rfl
  have hos : ∀ o ∈ Receipt.operations, ¬ o.Handles "till" := by
    simp [Receipt.operations, Operation.Handles]
  have hwritable : ∀ o ∈ Receipt.operations, ∀ r ∈ o.requestsWith "till", ∀ f ∈ r.parameters,
      f.2.hasHugeInt = false := by
    simp [Receipt.operations, Operation.requestsWith, Receipt.request, Value.hasHugeInt]
  obtain ⟨-, haccounts, -⟩ := hreachable.cache_accounts "till" Receipt.operations hos hwritable
  exact ⟨haccounts, by decide +kernel, by decide +kernel, by decide +kernel, by decide +kernel,
    by decide +kernel⟩

end RecordRules
