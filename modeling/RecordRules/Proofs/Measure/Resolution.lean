import RecordRules.Proofs.Json.Exact
import RecordRules.Proofs.Measure.Keys
import RecordRules.Proofs.Value.Names

/-!
# Settling parameters is a normalisation

A measure sees its parameters only after they have been settled, so that it makes no difference what
else was supplied, nor whether a default was left out or written out.

* `Measure.resolveFrom_congr`: settling depends on the values of the parameters and on nothing else.
* `Measure.resolveFrom_eq_error_iff`: it fails at the first parameter that has no value.
* `Measure.restricted` drops what no parameter asks for, and `Measure.completed` writes the defaults
  out; both leave the values of parameters as they are.
* `MeasureCall.evaluateWith_again`: an evaluation that succeeded is answered from the cache the next
  time.
* `Measure.resolve_normalizes` is the theorem.
-/

set_option autoImplicit false

namespace RecordRules

theorem Parameter.default?_eq_none_iff {p : Parameter} : p.default? = none ↔ p.default = .null := by
  rw [default?]
  cases p.default <;> simp

namespace Measure

variable {m : Measure} {supplied other : Fields Value} {p q : Parameter} {ps rest : List Parameter}

/-! ## Values of parameters -/

/-- A parameter has a value: one is supplied, be it null, or there is a default, which null is
not. -/
def HasValue (supplied : Fields Value) (p : Parameter) : Prop :=
  p.name ∈ supplied.names ∨ p.default ≠ .null

theorem parameterValue?_eq (supplied : Fields Value) (p : Parameter) :
    parameterValue? supplied p = (supplied.get? p.name).or p.default? := by
  rw [parameterValue?]
  cases supplied.get? p.name <;> rfl

theorem parameterValue?_eq_none_iff :
    parameterValue? supplied p = none ↔ ¬ HasValue supplied p := by
  rw [parameterValue?_eq, Option.or_eq_none_iff, Parameter.default?_eq_none_iff, HasValue, not_or,
    Classical.not_not, ← Fields.has_iff_mem_names, Bool.not_eq_true, Fields.has_eq_false_iff]

/-- The first of some parameters that has no value. -/
def FirstMissing (supplied : Fields Value) (ps : List Parameter) (p : Parameter) : Prop :=
  ∃ before after, ps = before ++ p :: after ∧ (∀ q ∈ before, HasValue supplied q) ∧
    ¬ HasValue supplied p

theorem firstMissing_cons_of_hasValue (hq : HasValue supplied q) :
    FirstMissing supplied (q :: rest) p ↔ FirstMissing supplied rest p := by
  constructor
  · rintro ⟨before, after, heq, hbefore, hp⟩
    cases before with
    | nil =>
      cases heq
      exact absurd hq hp
    | cons q' before =>
      cases heq
      exact ⟨before, after, rfl, (List.forall_mem_cons.1 hbefore).2, hp⟩
  · rintro ⟨before, after, rfl, hbefore, hp⟩
    exact ⟨q :: before, after, rfl, List.forall_mem_cons.2 ⟨hq, hbefore⟩, hp⟩

theorem firstMissing_cons_of_not_hasValue (hq : ¬ HasValue supplied q) :
    FirstMissing supplied (q :: rest) p ↔ p = q := by
  constructor
  · rintro ⟨before, after, heq, hbefore, -⟩
    cases before with
    | nil =>
      cases heq
      rfl
    | cons q' before =>
      cases heq
      exact absurd (hbefore q List.mem_cons_self) hq
  · rintro rfl
    exact ⟨[], rest, rfl, List.forall_mem_nil _, hq⟩

/-- If any parameter has no value, there is a first one. -/
theorem exists_firstMissing (hp : p ∈ ps) (h : ¬ HasValue supplied p) :
    ∃ q, FirstMissing supplied ps q := by
  induction ps with
  | nil => cases hp
  | cons q rest ih =>
    by_cases hq : HasValue supplied q
    · simp only [firstMissing_cons_of_hasValue hq]
      refine ih ((List.mem_cons.1 hp).resolve_left ?_)
      rintro rfl
      exact h hq
    · exact ⟨q, (firstMissing_cons_of_not_hasValue hq).2 rfl⟩

/-! ## Settling -/

theorem resolveFrom_eq_ok_of_hasValue (m : Measure) (h : ∀ p ∈ ps, HasValue supplied p) :
    m.resolveFrom supplied ps = .ok (ps.map fun p => (p.name, settled supplied p)) := by
  induction ps with
  | nil => rfl
  | cons p rest ih =>
    rw [List.forall_mem_cons] at h
    obtain ⟨v, hv⟩ := Option.ne_none_iff_exists'.1 (mt parameterValue?_eq_none_iff.1
      (not_not_intro h.1))
    rw [resolveFrom, hv]
    dsimp only
    rw [ih h.2, List.map_cons, settled, hv]
    rfl

/-- Settling fails at the first parameter that has no value. -/
theorem resolveFrom_eq_error_iff {e : Fault} :
    m.resolveFrom supplied ps = .error e ↔
      ∃ p, FirstMissing supplied ps p ∧ e = m.missingParameter p.name := by
  induction ps with
  | nil =>
    rw [resolveFrom]
    refine iff_of_false (by simp) ?_
    rintro ⟨p, ⟨before, after, heq, -⟩, -⟩
    cases before <;> cases heq
  | cons q rest ih =>
    rw [resolveFrom]
    cases hvalue : parameterValue? supplied q with
    | some v =>
      have hq : HasValue supplied q := by
        rw [← Classical.not_not (a := HasValue supplied q), ← parameterValue?_eq_none_iff, hvalue]
        exact Option.some_ne_none v
      simp only [firstMissing_cons_of_hasValue hq]
      exact map_eq_error_iff.trans ih
    | none =>
      simp only [firstMissing_cons_of_not_hasValue (parameterValue?_eq_none_iff.1 hvalue),
        exists_eq_left, Except.error.injEq]
      exact eq_comm

/-- Settling depends on the values of the parameters and on nothing else. -/
theorem resolveFrom_congr (m : Measure)
    (h : ∀ p ∈ ps, parameterValue? other p = parameterValue? supplied p) :
    m.resolveFrom other ps = m.resolveFrom supplied ps := by
  induction ps with
  | nil => rfl
  | cons p rest ih =>
    rw [List.forall_mem_cons] at h
    rw [resolveFrom, resolveFrom, h.1, ih h.2]

theorem resolve_eq_ok_iff :
    (∃ values, m.resolve supplied = .ok values) ↔ ∀ p ∈ m.parameters, HasValue supplied p := by
  constructor
  · rintro ⟨values, hvalues⟩ p hp
    by_contra hmissing
    obtain ⟨first, hfirst⟩ := exists_firstMissing hp hmissing
    rw [resolve, resolveFrom_eq_error_iff.2 ⟨first, hfirst, rfl⟩] at hvalues
    cases hvalues
  · exact fun h => ⟨_, resolveFrom_eq_ok_of_hasValue m h⟩

/-- What is settled has the names of the parameters, in their order. -/
theorem names_of_resolve {values : Fields Value} (h : m.resolve supplied = .ok values) :
    values.names = m.parameters.map Parameter.name := by
  rw [resolveFrom_eq_ok h, Fields.names, List.map_map]
  rfl

/-- What is settled has the values of the parameters. -/
theorem get?_of_resolve {values : Fields Value} (h : m.resolve supplied = .ok values)
    (hp : p ∈ m.parameters) : values.get? p.name = parameterValue? supplied p := by
  have hsome : parameterValue? supplied p ≠ none :=
    mt parameterValue?_eq_none_iff.1 (not_not_intro (resolve_eq_ok_iff.1 ⟨values, h⟩ p hp))
  obtain ⟨v, hv⟩ := Option.ne_none_iff_exists'.1 hsome
  have hunique : values.names.Nodup := names_of_resolve h ▸ m.unique
  rw [hv, Fields.get?_eq_some_iff hunique, resolveFrom_eq_ok h]
  refine List.mem_map.2 ⟨p, hp, ?_⟩
  rw [settled, hv]
  rfl

/-- Settling what is settled changes nothing. -/
theorem resolve_resolve {values : Fields Value} (h : m.resolve supplied = .ok values) :
    m.resolve values = .ok values := by
  rw [← h]
  refine resolveFrom_congr m fun p hp => ?_
  rw [parameterValue?_eq, get?_of_resolve h hp, parameterValue?_eq, Option.or_assoc, Option.or_self]

/-! ## Supplying less and more -/

/-- What is supplied for parameters. -/
def restricted (m : Measure) (supplied : Fields Value) : Fields Value :=
  supplied.filter fun e => (m.parameters.map Parameter.name).contains e.1

/-- Writes out the default of a parameter for which nothing is supplied, if it has one. -/
def complete (supplied : Fields Value) (p : Parameter) : Fields Value :=
  match supplied.get? p.name, p.default? with
  | none, some v => supplied.set p.name v
  | _, _ => supplied

/-- What is supplied, with the defaults of all other parameters. -/
def completed (m : Measure) (supplied : Fields Value) : Fields Value :=
  m.parameters.foldl complete supplied

theorem get?_complete_other {name : String} (h : name ≠ p.name) :
    (complete supplied p).get? name = supplied.get? name := by
  rw [complete]
  split
  · exact Fields.get?_set_other _ _ h
  · rfl

theorem get?_complete_self : (complete supplied p).get? p.name = parameterValue? supplied p := by
  rw [complete, parameterValue?]
  cases hsupplied : supplied.get? p.name with
  | some v => exact hsupplied
  | none =>
    cases p.default? with
    | none => exact hsupplied
    | some v => exact Fields.get?_set_self _ _ _

theorem get?_foldl_complete_other {name : String} (h : name ∉ ps.map Parameter.name) :
    (ps.foldl complete supplied).get? name = supplied.get? name := by
  induction ps generalizing supplied with
  | nil => rfl
  | cons p rest ih =>
    rw [List.map_cons, List.mem_cons, not_or] at h
    rw [List.foldl_cons, ih h.2, get?_complete_other h.1]

theorem get?_foldl_complete (hunique : (ps.map Parameter.name).Nodup) (hp : p ∈ ps) :
    (ps.foldl complete supplied).get? p.name = parameterValue? supplied p := by
  induction ps generalizing supplied with
  | nil => cases hp
  | cons q rest ih =>
    rw [List.map_cons, List.nodup_cons] at hunique
    rw [List.foldl_cons]
    rcases List.mem_cons.1 hp with rfl | hp
    · rw [get?_foldl_complete_other hunique.1, get?_complete_self]
    · have hne : p.name ≠ q.name := fun heq =>
        hunique.1 (heq ▸ List.mem_map_of_mem hp)
      rw [ih hunique.2 hp, parameterValue?_eq, parameterValue?_eq, get?_complete_other hne]

theorem resolve_restricted (m : Measure) (supplied : Fields Value) :
    m.resolve (m.restricted supplied) = m.resolve supplied := by
  refine resolveFrom_congr m fun p hp => ?_
  have hname : (m.parameters.map Parameter.name).contains p.name = true :=
    List.contains_iff_mem.2 (List.mem_map_of_mem hp)
  rw [parameterValue?_eq, parameterValue?_eq, restricted,
    Fields.get?_filter supplied (m.parameters.map Parameter.name).contains, if_pos hname]

theorem resolve_completed (m : Measure) (supplied : Fields Value) :
    m.resolve (m.completed supplied) = m.resolve supplied := by
  refine resolveFrom_congr m fun p hp => ?_
  rw [parameterValue?_eq, completed, get?_foldl_complete m.unique hp, parameterValue?_eq,
    Option.or_assoc, Option.or_self]

end Measure

/-! ## Evaluation -/

section Evaluation

variable {db : Database} {limits : Expression.Limits} {cache after : Cache}
  {result : MeasureResult}

/-- **An evaluation that succeeded is answered from the cache next time.** -/
theorem MeasureCall.evaluateWith_again {c : MeasureCall}
    (h : c.evaluateWith limits cache = (.ok result, after)) :
    c.evaluateWith limits after = (.ok result, { after with hits := after.hits + 1 }) := by
  obtain ⟨hkept, hresult⟩ := kept_of_evaluateWith h
  rw [evaluateWith_of_kept hkept, hresult]

variable {identifier : String} {version : Option Int} {m : Measure} {supplied other : Fields Value}

/-- An evaluation is prepared alike from whatever settles to the same parameters. -/
theorem prepareMeasure_congr (hfind : findMeasure db identifier version = .ok m)
    (h : m.resolve other = m.resolve supplied) :
    prepareMeasure db identifier version other = prepareMeasure db identifier version supplied := by
  rw [prepareMeasure, prepareMeasure, hfind, ok_bind, ok_bind, h]

theorem evaluateMeasureWith_again
    (h : evaluateMeasureWith db limits cache ⟨identifier, version, supplied⟩ = (.ok result, after))
    (hsame : prepareMeasure db identifier version other =
      prepareMeasure db identifier version supplied) :
    evaluateMeasureWith db limits after ⟨identifier, version, other⟩ =
      (.ok result, { after with hits := after.hits + 1 }) := by
  rw [evaluateMeasureWith] at h ⊢
  dsimp only at h ⊢
  rw [hsame]
  cases hcall : prepareMeasure db identifier version supplied with
  | error e =>
    rw [hcall] at h
    cases h
  | ok c =>
    rw [hcall] at h
    exact c.evaluateWith_again h

end Evaluation

namespace Measure

/-- **Settling parameters is a normalisation.**

* It succeeds exactly if every parameter is supplied, be it as null, or has a default, and otherwise
  the first parameter that is not and has none is reported as missing.
* What is settled has the names of the parameters, depends only on what is supplied for them, and is
  settled to itself.
* The evaluation of a measure for the supplied values, for those of them that parameters ask for,
  and for them together with the defaults gives the same result or failure, with the same key and
  with any cache.
* If the first of these succeeds with a cache, the others are answered from it. -/
theorem resolve_normalizes (m : Measure) (supplied : Fields Value) :
    ((∃ values, m.resolve supplied = .ok values) ↔ ∀ p ∈ m.parameters, HasValue supplied p) ∧
      (∀ e, m.resolve supplied = .error e ↔ ∃ p, FirstMissing supplied m.parameters p ∧
        e = m.missingParameter p.name) ∧
      (∀ name, (m.missingParameter name).kind = .missingParameter) ∧
      (∀ values, m.resolve supplied = .ok values →
        values.names = m.parameters.map Parameter.name ∧ m.resolve values = .ok values) ∧
      (∀ other : Fields Value, (∀ p ∈ m.parameters, other.get? p.name = supplied.get? p.name) →
        m.resolve other = m.resolve supplied) ∧
      ∀ db limits identifier version, findMeasure db identifier version = .ok m →
        (∀ other, other = m.restricted supplied ∨ other = m.completed supplied →
          prepareMeasure db identifier version other =
              prepareMeasure db identifier version supplied ∧
            evaluateMeasure db limits ⟨identifier, version, other⟩ =
              evaluateMeasure db limits ⟨identifier, version, supplied⟩ ∧
            ∀ cache, evaluateMeasureWith db limits cache ⟨identifier, version, other⟩ =
              evaluateMeasureWith db limits cache ⟨identifier, version, supplied⟩) ∧
          ∀ cache result after,
            evaluateMeasureWith db limits cache ⟨identifier, version, supplied⟩ =
                (.ok result, after) →
              evaluateMeasureWith db limits after ⟨identifier, version, m.restricted supplied⟩ =
                  (.ok result, { after with hits := after.hits + 1 }) ∧
                evaluateMeasureWith db limits { after with hits := after.hits + 1 }
                    ⟨identifier, version, m.completed supplied⟩ =
                  (.ok result, { after with hits := after.hits + 2 }) := by
  refine ⟨resolve_eq_ok_iff, fun e => resolveFrom_eq_error_iff, fun name => Fault.of_kind ..,
    fun values h => ⟨names_of_resolve h, resolve_resolve h⟩, fun other h => ?_,
    fun db limits identifier version hfind => ?_⟩
  · refine resolveFrom_congr m fun p hp => ?_
    rw [parameterValue?_eq, parameterValue?_eq, h p hp]
  have hsame : ∀ other, other = m.restricted supplied ∨ other = m.completed supplied →
      prepareMeasure db identifier version other =
        prepareMeasure db identifier version supplied := by
    rintro other (rfl | rfl)
    · exact prepareMeasure_congr hfind (resolve_restricted m supplied)
    · exact prepareMeasure_congr hfind (resolve_completed m supplied)
  refine ⟨fun other hother => ⟨hsame other hother, ?_, fun cache => ?_⟩,
    fun cache result after hfirst => ?_⟩
  · rw [evaluateMeasure, evaluateMeasure, hsame other hother]
  · rw [evaluateMeasureWith, evaluateMeasureWith, hsame other hother]
  · have hsecond := evaluateMeasureWith_again hfirst (hsame _ (.inl rfl))
    refine ⟨hsecond, evaluateMeasureWith_again hsecond ?_⟩
    rw [hsame _ (.inr rfl), hsame _ (.inl rfl)]

namespace Quote

/-- A measure of a base, which has to be supplied, and a rate, which has a default. -/
def measure : Measure :=
  { id := some "quote-1", identifier := "quote", version := 1, name := none, description := none
    parameters := [⟨"base", .null, none⟩, ⟨"rate", .text "low", none⟩], expression := "rate"
    returnType := .string, unique := by decide }

/-- A database with that measure. -/
def database : Database := { tables := some { measures := [measure] } }

/-- The base is null, no rate is given, and nobody asks for the note. -/
def supplied : Fields Value := [("note", .text "draft"), ("base", .null)]

/-- What a first evaluation yields. -/
def result : MeasureResult := { identifier := "quote", version := 1, result := .text "low" }

/-- The cache after a first evaluation. -/
def after : Cache := (evaluateMeasureWith database {} {} ⟨"quote", none, supplied⟩).2

end Quote

/-- Null is a base, but nothing is none; and the quote is the same whether the note is left out or
the rate is written out. -/
theorem resolve_normalizes_quote :
    Quote.measure.resolve Quote.supplied = .ok [("base", .null), ("rate", .text "low")] ∧
      Quote.measure.resolve [("base", .null), ("rate", .text "low")] =
        .ok [("base", .null), ("rate", .text "low")] ∧
      Quote.measure.resolve [("note", .null)] = .error (Quote.measure.missingParameter "base") ∧
      evaluateMeasureWith Quote.database {} Quote.after
          ⟨"quote", none, Quote.measure.restricted Quote.supplied⟩ =
        (.ok Quote.result, { Quote.after with hits := 1 }) ∧
      evaluateMeasureWith Quote.database {} { Quote.after with hits := 1 }
          ⟨"quote", none, Quote.measure.completed Quote.supplied⟩ =
        (.ok Quote.result, { Quote.after with hits := 2 }) := by
  obtain ⟨-, -, -, hsettled, -, heval⟩ := resolve_normalizes Quote.measure Quote.supplied
  obtain ⟨-, hmissing, -⟩ := resolve_normalizes Quote.measure [("note", .null)]
  have hvalues : Quote.measure.resolve Quote.supplied =
      .ok [("base", .null), ("rate", .text "low")] := rfl
  have hnothing : ¬ HasValue [("note", .null)] ⟨"base", .null, none⟩ := by
    simp [HasValue, Fields.names]
  have hfirst : evaluateMeasureWith Quote.database {} {} ⟨"quote", none, Quote.supplied⟩ =
      (.ok Quote.result, Quote.after) := rfl
  have hnext := (heval Quote.database {} "quote" none rfl).2 {} Quote.result Quote.after hfirst
  exact ⟨hvalues, (hsettled _ hvalues).2,
    (hmissing _).2 ⟨⟨"base", .null, none⟩, ⟨[], _, rfl, List.forall_mem_nil _, hnothing⟩, rfl⟩,
    hnext⟩

end Measure
end RecordRules
