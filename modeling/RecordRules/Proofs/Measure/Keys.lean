import RecordRules.Measure.Evaluate
import RecordRules.Proofs.Json.Values
import RecordRules.Proofs.Store.Statements

/-!
# Keys of measures

The key under which a cache keeps the value of a measure begins with its identifier and version and
goes on with its parameters, none of them quoted.

* `Measure.orderedEntries_eq_of_keyParts`: under the same names, the second part tells the values of
  parameters, up to the order of entries; `Measure.keyParts_inj` is this among the same parameters.
* `Measure.HeadsApart`: the first part of no key runs on into that of another measure.  It does if
  an identifier goes on behind another one as a version would, after a colon.
* `MeasureCall.Prepared` is what is known of a call when it is evaluated, and
  `MeasureCall.Prepared.of_key_eq` says that its key tells the rest.
* `MeasureCall.evaluateWith_of_kept`, `MeasureCall.evaluateWith_of_value` and
  `MeasureCall.evaluateWith_of_failure`: what a call with a cache comes to.
-/

set_option autoImplicit false

namespace RecordRules
namespace Measure

/-! ## Parameters -/

/-- The value that a parameter is settled to. -/
def settled (supplied : Fields Value) (p : Parameter) : Value :=
  (parameterValue? supplied p).getD .null

theorem resolveFrom_eq_ok {m : Measure} {supplied values : Fields Value} {ps : List Parameter}
    (h : m.resolveFrom supplied ps = .ok values) :
    values = ps.map fun p => (p.name, settled supplied p) := by
  induction ps generalizing values with
  | nil =>
    cases h
    rfl
  | cons p rest ih =>
    rw [resolveFrom] at h
    split at h
    · rename_i v hv
      obtain ⟨others, hothers, rfl⟩ := map_eq_ok_iff.1 h
      rw [List.map_cons, settled, hv, Option.getD_some, ← ih hothers]
    · cases h

/-- A settled value is null, a default or a supplied value. -/
theorem settled_of_forall {P : Value → Prop} {supplied : Fields Value} {p : Parameter}
    (hnull : P .null) (hdefault : P p.default) (hsupplied : ∀ e ∈ supplied, P e.2) :
    P (settled supplied p) := by
  rw [settled, parameterValue?]
  split
  · rename_i v hv
    exact hsupplied (p.name, v) (Fields.mem_of_get? hv)
  · rw [Parameter.default?]
    split
    · exact hnull
    · exact hdefault

/-- Settled values are JSON if what they are settled from is. -/
theorem settled_isJson {supplied : Fields Value} {p : Parameter} (hp : p.default.IsJson)
    (hsupplied : ∀ e ∈ supplied, e.2.IsJson) : (settled supplied p).IsJson :=
  settled_of_forall trivial hp hsupplied

/-! ## The second part of a key -/

/-- What stands behind the text of a parameter. -/
def keyTail : Fields Value → List Char
  | [] => []
  | rest => ',' :: keyParts rest

theorem ends_keyTail (rest : Fields Value) : Json.Ends (keyTail rest) := by
  cases rest with
  | nil => exact Json.ends_nil
  | cons next rest => exact Json.ends_cons (.inl rfl) _

/-- What stands behind a parameter tells as much as the parameters that follow it. -/
theorem keyTail_eq_iff {ps qs : Fields Value} (h : ps.length = qs.length) :
    keyTail ps = keyTail qs ↔ keyParts ps = keyParts qs := by
  cases ps with
  | nil => rw [List.eq_nil_of_length_eq_zero h.symm, eq_self, eq_self]
  | cons e rest =>
    obtain ⟨e', rest', rfl⟩ := List.exists_cons_of_length_eq_add_one h.symm
    exact List.cons_inj_right _

theorem keyParts_cons (name : String) (v : Value) (rest : Fields Value) :
    keyParts ((name, v) :: rest) =
      name.toList ++ '=' :: (Json.encode .byName v ++ keyTail rest) := by
  cases rest with
  | nil => rw [keyParts, keyPart, keyTail, List.append_nil]
  | cons next rest =>
    rw [keyParts, keyPart, keyTail, List.append_assoc]
    · rfl
    · exact nofun
    · exact nofun

/-- **Under the same names, the text of parameters tells their values**, up to the order of
entries. -/
theorem orderedEntries_eq_of_keyParts {ps qs : Fields Value} (hnames : ps.names = qs.names)
    (hps : ∀ e ∈ ps, e.2.IsJson) (hqs : ∀ e ∈ qs, e.2.IsJson) (h : keyParts ps = keyParts qs) :
    Value.orderedEntries ps = Value.orderedEntries qs := by
  induction ps generalizing qs with
  | nil =>
    cases qs with
    | nil => rfl
    | cons e' rest' => cases hnames
  | cons e rest ih =>
    cases qs with
    | nil => cases hnames
    | cons e' rest' =>
      obtain ⟨hname, hrest⟩ := List.cons.inj hnames
      rw [List.forall_mem_cons] at hps hqs
      rw [keyParts_cons, keyParts_cons, hname, List.append_cancel_left_eq, List.cons.injEq] at h
      obtain ⟨halike, htail⟩ := Json.encode_byName_append_inj hps.1 hqs.1 (ends_keyTail _)
        (ends_keyTail _) h.2
      have hlength : rest.length = rest'.length := by
        rw [← List.length_map Prod.fst, hrest, List.length_map]
      rw [Value.orderedEntries, Value.orderedEntries,
        ih hrest hps.2 hqs.2 ((keyTail_eq_iff hlength).1 htail), hname,
        show e.2.ordered = e'.2.ordered from halike]

/-- Among the same parameters, their text tells the values. -/
theorem keyParts_inj {α : Type} {fields : Fields α} {f g : α → Value}
    (hf : ∀ e ∈ fields, (f e.2).IsJson) (hg : ∀ e ∈ fields, (g e.2).IsJson)
    (h : keyParts (fields.map fun e => (e.1, f e.2)) =
      keyParts (fields.map fun e => (e.1, g e.2))) :
    ∀ e ∈ fields, (f e.2).Alike (g e.2) := by
  have hnames : ∀ f : α → Value, Fields.names (fields.map fun e => (e.1, f e.2)) =
      fields.names := fun f => by
    rw [Fields.names, List.map_map]
    rfl
  have hordered := orderedEntries_eq_of_keyParts ((hnames f).trans (hnames g).symm)
    (List.forall_mem_map.2 hf) (List.forall_mem_map.2 hg) h
  rw [Value.orderedEntries_eq_map, Value.orderedEntries_eq_map, List.map_map, List.map_map,
    List.map_inj_left] at hordered
  exact fun e he => (Prod.mk.inj (hordered e he)).2

/-! ## The first part of a key -/

/-- The first part of the keys of a measure. -/
def head (m : Measure) : List Char :=
  m.identifier.toList ++ ':' :: ((toString m.version).toList ++ [':'])

/-- The first part of the keys of one measure never runs on into that of another one. -/
def HeadsApart (ms : List Measure) : Prop :=
  ∀ m ∈ ms, ∀ n ∈ ms, m.head <+: n.head → m.identifier = n.identifier ∧ m.version = n.version

theorem cacheKey_eq_ok {m : Measure} {parameters : Fields Value} {key : String}
    (h : cacheKey m.identifier m.version parameters = .ok key) :
    key.toList = m.head ++ keyParts (Fields.sorted parameters) := by
  rw [cacheKey] at h
  split at h
  · cases h
  · cases h
    simp only [head, String.toList_append, String.toList_ofList, List.append_assoc,
      List.cons_append, List.nil_append]
    rfl

/-- Where identifiers have no colon, the first parts of keys are apart. -/
theorem headsApart_of_no_colon {ms : List Measure} (h : ∀ m ∈ ms, ':' ∉ m.identifier.toList) :
    HeadsApart ms := by
  have hspan : ∀ {a : List Char} (s : List Char), ':' ∉ a →
      (a ++ ':' :: s).span (· != ':') = (a, ':' :: s) := fun s ha =>
    Double.span_append (fun c hc => bne_iff_ne.2 fun heq => ha (heq ▸ hc))
      (by rintro _ ⟨⟩; rfl)
  have hversion : ∀ n : Int, ':' ∉ (toString n).toList := fun n hmem =>
    absurd (Json.toString_chars n _ hmem) (by decide)
  rintro m hm n hn ⟨rest, heq⟩
  rw [head, head, List.append_assoc, List.cons_append, List.append_assoc] at heq
  have hids := congrArg (List.span (· != ':')) heq
  rw [hspan _ (h m hm), hspan _ (h n hn), Prod.mk.injEq, List.cons.injEq] at hids
  obtain ⟨hid, -, heq⟩ := hids
  have hversions := congrArg (List.span (· != ':')) heq
  rw [List.singleton_append, hspan _ (hversion _), hspan _ (hversion _)] at hversions
  exact ⟨String.toList_inj.1 hid, Json.toString_inj (Prod.mk.inj hversions).1⟩

/-! ## Calls -/

/-- The latest of some versions is one of them. -/
theorem foldl_laterVersion_mem (m : Measure) (rest : List Measure) :
    rest.foldl Database.laterVersion m ∈ m :: rest := by
  induction rest generalizing m with
  | nil => exact List.mem_singleton_self m
  | cons n rest ih =>
    rw [List.foldl_cons]
    have hlater : Database.laterVersion m n = m ∨ Database.laterVersion m n = n := by
      rw [Database.laterVersion]
      split
      · exact .inr rfl
      · exact .inl rfl
    rcases hlater with heq | heq <;> rw [heq]
    · exact List.mem_cons.2 ((List.mem_cons.1 (ih m)).imp_right (List.mem_cons_of_mem _))
    · exact List.mem_cons_of_mem _ (ih n)

theorem findMeasure_mem {db : Database} {identifier : String} {version : Option Int} {m : Measure}
    (h : findMeasure db identifier version = .ok m) :
    ∃ t, db.tables = some t ∧ m ∈ t.measures := by
  unfold findMeasure at h
  cases version with
  | some version =>
    obtain ⟨_ | n, hread, h⟩ := bind_eq_ok_iff.1 h <;> cases h
    obtain ⟨t, ht, hquery⟩ := Database.read_eq_ok_iff.1 hread
    refine ⟨t, ht, ?_⟩
    split at hquery
    · cases hquery
    · exact List.mem_of_find?_eq_some (Except.ok.inj hquery)
  | none =>
    obtain ⟨_ | n, hread, h⟩ := bind_eq_ok_iff.1 h <;> cases h
    obtain ⟨t, ht, hquery⟩ := Database.read_eq_ok_iff.1 hread
    refine ⟨t, ht, ?_⟩
    split at hquery
    · cases hquery
    · rename_i first rest hfilter
      have hmem := foldl_laterVersion_mem first rest
      rw [Option.some.inj (Except.ok.inj hquery), ← hfilter] at hmem
      exact (List.mem_filter.1 hmem).1

end Measure

namespace MeasureCall

/-- A call of a measure in some tables, ready to be evaluated: every parameter has a value that JSON
can denote, and the key tells of them. -/
structure Prepared (t : Tables) (c : MeasureCall) : Prop where
  measure : c.measure ∈ t.measures
  key : c.key.toList = c.measure.head ++ Measure.keyParts (Fields.sorted c.parameters)
  parameters : ∃ f : Parameter → Value, (∀ p ∈ c.measure.parameters, (f p).IsJson) ∧
    c.parameters = c.measure.parameters.map fun p => (p.name, f p)

theorem prepared_of_ok {db : Database} {identifier : String} {version : Option Int}
    {supplied : Fields Value} {c : MeasureCall}
    (hdefaults : ∀ t ∈ db.tables, ∀ m ∈ t.measures, ∀ p ∈ m.parameters, p.default.IsJson)
    (hsupplied : ∀ e ∈ supplied, e.2.IsJson)
    (h : prepareMeasure db identifier version supplied = .ok c) :
    ∃ t, db.tables = some t ∧ c.Prepared t := by
  rw [prepareMeasure] at h
  obtain ⟨m, hm, h⟩ := bind_eq_ok_iff.1 h
  obtain ⟨values, hvalues, h⟩ := bind_eq_ok_iff.1 h
  obtain ⟨key, hkey, h⟩ := bind_eq_ok_iff.1 h
  cases h
  obtain ⟨t, ht, hmem⟩ := Measure.findMeasure_mem hm
  exact ⟨t, ht, hmem, Measure.cacheKey_eq_ok (mapError_eq_ok_iff.1 hkey), _,
    fun p hp => Measure.settled_isJson (hdefaults t ht m hmem p hp) hsupplied,
    Measure.resolveFrom_eq_ok (mapError_eq_ok_iff.1 hvalues)⟩

/-- Two calls are of one measure, and their parameters have values that are alike. -/
structure Alike (c d : MeasureCall) : Prop where
  measure : c.measure = d.measure
  parameters : List.Forall₂ (fun e e' => e.1 = e'.1 ∧ e.2.Alike e'.2) c.parameters d.parameters

/-- **Calls under one key are alike**, provided that the first parts of keys are apart. -/
theorem Prepared.of_key_eq {t : Tables} (hk : t.Keyed) (hapart : Measure.HeadsApart t.measures)
    {c d : MeasureCall} (hc : c.Prepared t) (hd : d.Prepared t) (h : c.key = d.key) :
    c.Alike d := by
  have hkeys : c.measure.head ++ Measure.keyParts (Fields.sorted c.parameters) =
      d.measure.head ++ Measure.keyParts (Fields.sorted d.parameters) := by
    rw [← hc.key, h, hd.key]
  have hversion : c.measure.identifier = d.measure.identifier ∧
      c.measure.version = d.measure.version := by
    rcases List.prefix_or_prefix_of_prefix ⟨_, hkeys⟩ ⟨_, rfl⟩ with hprefix | hprefix
    · exact hapart _ hc.measure _ hd.measure hprefix
    · exact (hapart _ hd.measure _ hc.measure hprefix).imp Eq.symm Eq.symm
  have hmeasure : c.measure = d.measure := List.inj_on_of_nodup_map hk.versions hc.measure
    hd.measure (Prod.ext hversion.1 hversion.2)
  obtain ⟨f, hf, hcp⟩ := hc.parameters
  obtain ⟨g, hg, hdp⟩ := hd.parameters
  rw [hmeasure] at hf hcp hkeys
  rw [List.append_cancel_left_eq] at hkeys
  -- the parameters by name, to be sorted with either values
  have hfields : ∀ f : Parameter → Value, (d.measure.parameters.map fun p => (p.name, f p)) =
      (d.measure.parameters.map fun p => (p.name, p)).map fun e => (e.1, f e.2) := fun f => by
    rw [List.map_map]
    rfl
  have hmem : ∀ {P : Parameter → Prop}, (∀ p ∈ d.measure.parameters, P p) →
      ∀ e ∈ Fields.sorted (d.measure.parameters.map fun p => (p.name, p)), P e.2 := by
    intro P hP e he
    obtain ⟨p, hp, rfl⟩ := List.mem_map.1 ((Fields.sorted_perm _).subset he)
    exact hP p hp
  rw [hcp, hdp, hfields f, hfields g, Fields.sorted_map, Fields.sorted_map] at hkeys
  have halike := Measure.keyParts_inj (hmem hf) (hmem hg) hkeys
  refine ⟨hmeasure, ?_⟩
  rw [hcp, hdp, List.forall₂_map_left_iff, List.forall₂_map_right_iff, List.forall₂_same]
  exact fun p hp => ⟨rfl, halike (p.name, p)
    ((Fields.sorted_perm _).mem_iff.2 (List.mem_map.2 ⟨p, hp, rfl⟩))⟩

/-! ## Calls with a cache -/

section Cached

variable {c : MeasureCall} {limits : Expression.Limits} {cache : Cache}

theorem evaluateWith_of_kept {value : Value} (h : cache.entries.get? c.key = some value) :
    c.evaluateWith limits cache =
      (.ok (c.result value), { cache with hits := cache.hits + 1 }) := by
  rw [evaluateWith, Cache.lookup, h]

theorem evaluateWith_of_value {value : Value} (hnew : cache.entries.get? c.key = none)
    (h : c.measure.compute limits c.parameters = .ok value) :
    c.evaluateWith limits cache =
      (.ok (c.result value),
        { cache with misses := cache.misses + 1, entries := cache.entries.set c.key value }) := by
  rw [evaluateWith, Cache.lookup, hnew]
  dsimp only
  rw [h]
  rfl

theorem evaluateWith_of_failure {failure : Failure} (hnew : cache.entries.get? c.key = none)
    (h : c.measure.compute limits c.parameters = .error failure) :
    c.evaluateWith limits cache = (.error failure, { cache with misses := cache.misses + 1 }) := by
  rw [evaluateWith, Cache.lookup, hnew]
  dsimp only
  rw [h]

/-- A result is of the measure that was called, and its value is kept under the key. -/
theorem kept_of_evaluateWith {result : MeasureResult} {after : Cache}
    (h : c.evaluateWith limits cache = (.ok result, after)) :
    after.entries.get? c.key = some result.result ∧ c.result result.result = result := by
  cases hkept : cache.entries.get? c.key with
  | some value =>
    rw [evaluateWith_of_kept hkept] at h
    cases h
    exact ⟨hkept, rfl⟩
  | none =>
    cases hvalue : c.measure.compute limits c.parameters with
    | ok value =>
      rw [evaluateWith_of_value hkept hvalue] at h
      cases h
      exact ⟨Fields.get?_set_self .., rfl⟩
    | error failure =>
      rw [evaluateWith_of_failure hkept hvalue] at h
      cases h

end Cached

end MeasureCall
end RecordRules
