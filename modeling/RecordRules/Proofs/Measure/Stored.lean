import RecordRules.Proofs.Json.Values
import RecordRules.Proofs.System.Definitions

/-!
# Measures in the store

The store keeps the defaults of a measure as documents, and every measure in the tables is one that
was saved.

* `Value.keptAsIs`: a value in JSON is its own document.
* `Value.keptWritable`: a document can be written, whatever the value is.
* `Measure.stored_isJson`: defaults in JSON are kept as such.
* `Reachable.jsonDefaults`: whatever has run, all defaults are JSON if they were when they were
  saved.
* `Reachable.writableDefaults`: they can be written in any case.
-/

set_option autoImplicit false

namespace RecordRules

/-! ## Documents in JSON -/

namespace Value

/-- A value is its own document, if it has one. -/
def KeptAsIs (v : Value) : Prop := ∀ w, v.document = .ok w → w = v

theorem keptAsIs_int (n : Int) : KeptAsIs (.int n) := by
  intro w h
  rw [document] at h
  split at h
  · cases h
  · cases h
    rfl

theorem keptAsIs_float {x : Float} (hx : x.isNaN = false) : KeptAsIs (.float x) := by
  intro w h
  rw [document, hx] at h
  cases h
  rfl

theorem keptAsIs_list {items : List Value} (hitems : ∀ v ∈ items, v.KeptAsIs) :
    KeptAsIs (.list items) := by
  have hkept : ∀ {kept : List Value}, documentItems items = .ok kept → kept = items := by
    induction items with
    | nil => exact fun h => (Except.ok.inj h).symm
    | cons v rest ih =>
      intro kept h
      rw [List.forall_mem_cons] at hitems
      rw [documentItems] at h
      obtain ⟨w, hw, h⟩ := bind_eq_ok_iff.1 h
      obtain ⟨others, hothers, h⟩ := bind_eq_ok_iff.1 h
      cases h
      rw [hitems.1 w hw, ih hitems.2 hothers]
  intro w h
  obtain ⟨kept, hdone, rfl⟩ := map_eq_ok_iff.1 h
  rw [hkept hdone]

theorem keptAsIs_map {entries : List (String × Value)} (hentries : ∀ e ∈ entries, e.2.KeptAsIs) :
    KeptAsIs (.map entries) := by
  have hkept : ∀ {kept : List (String × Value)}, documentEntries entries = .ok kept →
      kept = entries := by
    induction entries with
    | nil => exact fun h => (Except.ok.inj h).symm
    | cons e rest ih =>
      intro kept h
      rw [List.forall_mem_cons] at hentries
      rw [documentEntries] at h
      obtain ⟨w, hw, h⟩ := bind_eq_ok_iff.1 h
      obtain ⟨others, hothers, h⟩ := bind_eq_ok_iff.1 h
      cases h
      rw [hentries.1 w hw, ih hentries.2 hothers]
  intro w h
  obtain ⟨kept, hdone, rfl⟩ := map_eq_ok_iff.1 h
  rw [hkept hdone]

mutual

/-- A value in JSON is its own document, if it has one. -/
theorem keptAsIs : ∀ v : Value, v.IsJson → v.KeptAsIs
  | .list items, h => keptAsIs_list (itemsKeptAsIs items h)
  | .map entries, h => keptAsIs_map (entriesKeptAsIs entries h)
  | .float _, h => keptAsIs_float h.1
  | .int n, _ => keptAsIs_int n
  | .null, _ => fun _ h => (Except.ok.inj h).symm
  | .bool _, _ => fun _ h => (Except.ok.inj h).symm
  | .text _, _ => fun _ h => (Except.ok.inj h).symm
  | .nan _, h => h.elim
  | .tuple _, h => h.elim
  | .date _, h => h.elim
  | .moment _, h => h.elim

theorem itemsKeptAsIs : ∀ items : List Value, AreJson items → ∀ v ∈ items, v.KeptAsIs
  | [], _ => nofun
  | v :: rest, h => List.forall_mem_cons.2 ⟨keptAsIs v h.1, itemsKeptAsIs rest h.2⟩

theorem entriesKeptAsIs : ∀ entries : List (String × Value), EntriesJson entries →
    ∀ e ∈ entries, e.2.KeptAsIs
  | [], _ => nofun
  | (_, v) :: rest, h => List.forall_mem_cons.2 ⟨keptAsIs v h.1.2, entriesKeptAsIs rest h.2⟩

end

/-- A double leaves for other programs as one that JSON can denote, or as null. -/
theorem isJson_plain_float (x : Float) : (Value.float x).plain.IsJson := by
  rw [plain]
  split
  · trivial
  · rename_i h
    rw [Bool.or_eq_true, not_or, Bool.not_eq_true, Bool.not_eq_true] at h
    exact h

/-! ## Documents can be written -/

/-- Whatever document a value has, it can be written. -/
def KeptWritable (v : Value) : Prop := ∀ w, v.document = .ok w → w.hasHugeInt = false

theorem hasHugeItem_of_document {items kept : List Value} (hitems : ∀ v ∈ items, v.KeptWritable)
    (h : documentItems items = .ok kept) : hasHugeItem kept = false := by
  induction items generalizing kept with
  | nil =>
    cases h
    rfl
  | cons v rest ih =>
    rw [List.forall_mem_cons] at hitems
    obtain ⟨first, hfirst, h⟩ := bind_eq_ok_iff.1 h
    obtain ⟨others, hothers, h⟩ := bind_eq_ok_iff.1 h
    cases h
    rw [hasHugeItem, hitems.1 first hfirst, ih hitems.2 hothers, Bool.false_or]

theorem hasHugeEntry_of_document {entries kept : List (String × Value)}
    (hentries : ∀ e ∈ entries, e.2.KeptWritable) (h : documentEntries entries = .ok kept) :
    hasHugeEntry kept = false := by
  induction entries generalizing kept with
  | nil =>
    cases h
    rfl
  | cons e rest ih =>
    rw [List.forall_mem_cons] at hentries
    obtain ⟨first, hfirst, h⟩ := bind_eq_ok_iff.1 h
    obtain ⟨others, hothers, h⟩ := bind_eq_ok_iff.1 h
    cases h
    rw [hasHugeEntry, hentries.1 first hfirst, ih hentries.2 hothers, Bool.false_or]

theorem keptWritable_int (n : Int) : KeptWritable (.int n) := by
  intro w h
  rw [document, guard_eq_ok_iff] at h
  rw [← Except.ok.inj h.2]
  exact Bool.eq_false_iff.2 h.1

theorem keptWritable_float (x : Float) : KeptWritable (.float x) := by
  intro w h
  rw [← Except.ok.inj h]
  split <;> rfl

theorem keptWritable_of_items {items : List Value} {v : Value}
    (hv : v.document = .list <$> documentItems items) (hitems : ∀ v ∈ items, v.KeptWritable) :
    v.KeptWritable := by
  intro w h
  rw [hv] at h
  obtain ⟨kept, hkept, rfl⟩ := map_eq_ok_iff.1 h
  exact hasHugeItem_of_document hitems hkept

mutual

/-- Every document can be written: it has no integer that is too long for that. -/
theorem keptWritable : ∀ v : Value, v.KeptWritable
  | .list items => keptWritable_of_items rfl (itemsKeptWritable items)
  | .tuple items => keptWritable_of_items rfl (itemsKeptWritable items)
  | .map entries => fun _ h => by
    obtain ⟨kept, hkept, rfl⟩ := map_eq_ok_iff.1 h
    exact hasHugeEntry_of_document (entriesKeptWritable entries) hkept
  | .int n => keptWritable_int n
  | .float x => keptWritable_float x
  | .nan _ => fun _ h => by rw [← Except.ok.inj h]; rfl
  | .null => fun _ h => by rw [← Except.ok.inj h]; rfl
  | .bool _ => fun _ h => by rw [← Except.ok.inj h]; rfl
  | .text _ => fun _ h => by rw [← Except.ok.inj h]; rfl
  | .date _ => fun _ h => nomatch h
  | .moment _ => fun _ h => nomatch h

theorem itemsKeptWritable : ∀ items : List Value, ∀ v ∈ items, v.KeptWritable
  | [] => nofun
  | v :: rest => List.forall_mem_cons.2 ⟨keptWritable v, itemsKeptWritable rest⟩

theorem entriesKeptWritable : ∀ entries : List (String × Value),
    ∀ e ∈ entries, e.2.KeptWritable
  | [] => nofun
  | (_, v) :: rest => List.forall_mem_cons.2 ⟨keptWritable v, entriesKeptWritable rest⟩

end

end Value

/-! ## Defaults -/

/-- All defaults are JSON as they leave for the store. -/
def Measure.JsonDefaults (m : Measure) : Prop := ∀ p ∈ m.parameters, p.default.plain.IsJson

theorem Parameter.storedAll_isJson {ps : List Parameter}
    {qs : { qs : List Parameter // qs.map Parameter.name = ps.map Parameter.name }}
    (hps : ∀ p ∈ ps, p.default.plain.IsJson) (h : storedAll ps = .ok qs) :
    ∀ q ∈ qs.1, q.default.IsJson := by
  induction ps with
  | nil =>
    cases h
    nofun
  | cons p rest ih =>
    rw [List.forall_mem_cons] at hps
    rw [storedAll] at h
    obtain ⟨q, hq, h⟩ := bind_eq_ok_iff.1 h
    obtain ⟨others, hothers, h⟩ := bind_eq_ok_iff.1 h
    obtain ⟨default, hdefault, hq⟩ := bind_eq_ok_iff.1 hq
    cases h
    cases hq
    rw [List.forall_mem_cons]
    refine ⟨?_, ih hps.2 hothers⟩
    rw [Value.keptAsIs _ hps.1 _ hdefault]
    exact hps.1

theorem Measure.stored_isJson {m m' : Measure} {id : String} (hm : m.JsonDefaults)
    (h : m.stored id = .ok m') : ∀ p ∈ m'.parameters, p.default.IsJson := by
  obtain ⟨ps, hps, h⟩ := bind_eq_ok_iff.1 h
  cases h
  exact Parameter.storedAll_isJson hm hps

theorem Parameter.hasHugeInt_of_storedAll {ps : List Parameter}
    {qs : { qs : List Parameter // qs.map Parameter.name = ps.map Parameter.name }}
    (h : storedAll ps = .ok qs) : ∀ q ∈ qs.1, q.default.hasHugeInt = false := by
  induction ps with
  | nil =>
    cases h
    nofun
  | cons p rest ih =>
    rw [storedAll] at h
    obtain ⟨q, hq, h⟩ := bind_eq_ok_iff.1 h
    obtain ⟨others, hothers, h⟩ := bind_eq_ok_iff.1 h
    obtain ⟨default, hdefault, hq⟩ := bind_eq_ok_iff.1 hq
    cases h
    cases hq
    exact List.forall_mem_cons.2 ⟨Value.keptWritable _ _ hdefault, ih hothers⟩

theorem Sample.discount_jsonDefaults : discount.JsonDefaults := by
  intro p hp
  rcases List.mem_cons.1 hp with rfl | hp
  · trivial
  · rw [List.mem_singleton.1 hp]
    exact Value.isJson_plain_float _

/-! ## Runs -/

/-- Every measure that an operation adds has been given to it to be saved. -/
theorem Operation.MayAdd.jsonDefaults {op : Operation} {m : Measure} (h : op.MayAdd (.measure m))
    (hsample : op ≠ .loadSample) (hop : ∀ given, op = .saveMeasure given → given.JsonDefaults) :
    ∀ p ∈ m.parameters, p.default.IsJson := by
  cases h with
  | measure h =>
    have hjson := Measure.stored_isJson (hop _ rfl) h
    exact hjson
  | sample _ _ => exact absurd rfl hsample

theorem Operation.MayAdd.hasHugeInt {op : Operation} {m : Measure} (h : op.MayAdd (.measure m))
    (hsample : op ≠ .loadSample) : ∀ p ∈ m.parameters, p.default.hasHugeInt = false := by
  cases h with
  | measure h =>
    obtain ⟨ps, hps, h⟩ := bind_eq_ok_iff.1 h
    cases h
    exact Parameter.hasHugeInt_of_storedAll hps
  | sample _ _ => exact absurd rfl hsample

theorem Sample.saveMeasure_mem_operations {m : Measure} (h : .saveMeasure m ∈ operations) :
    m = discount := by
  simpa [operations, rules] using h

/-- **Stored defaults are JSON** in every reachable system, if they were when they were saved. -/
theorem Reachable.jsonDefaults {p : Step → Prop} (hp : ∀ r, ¬ p (.request r))
    (hsaved : ∀ m, p (.operation (.saveMeasure m)) → m.JsonDefaults) {s : System}
    {notes : List Note} (h : Reachable p s notes) :
    ∀ t ∈ s.database.tables, ∀ m ∈ t.measures, ∀ q ∈ m.parameters, q.default.IsJson := by
  intro t ht m hm
  obtain ⟨o, ho, hsample, hadd⟩ := h.stands hp ht (i := .measure m) hm
  refine hadd.jsonDefaults hsample fun given hgiven => ?_
  subst hgiven
  rcases ho with hrun | hsample
  · exact hsaved given hrun
  · rw [Sample.saveMeasure_mem_operations hsample]
    exact Sample.discount_jsonDefaults

/-- **Stored defaults can be written** in every reachable system. -/
theorem Reachable.writableDefaults {p : Step → Prop} (hp : ∀ r, ¬ p (.request r)) {s : System}
    {notes : List Note} (h : Reachable p s notes) :
    ∀ t ∈ s.database.tables, ∀ m ∈ t.measures, ∀ q ∈ m.parameters,
      q.default.hasHugeInt = false := by
  intro t ht m hm
  obtain ⟨o, -, hsample, hadd⟩ := h.stands hp ht (i := .measure m) hm
  exact hadd.hasHugeInt hsample

end RecordRules
