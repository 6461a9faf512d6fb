import Mathlib.Data.List.Perm.Subperm
import RecordRules.Proofs.Json.Values
import RecordRules.Value.Written

/-!
# JSON values without doubles

Nothing is lost when such a value is written: integers have no more digits than can be written,
texts are told by their units, and no map has a name twice.

* `Value.IsExact` are these values, and `Value.IsExact.isJson` says that JSON can denote them.
* `Value.sameJson` is their equality: lists item by item, maps by looking names up, and a truth
  value is no number.
* `Value.sameJson_iff_alike`: two values are equal exactly if they are the same once the entries of
  all maps are put into order.
-/

set_option autoImplicit false

namespace RecordRules

/-! ## Fields with unique names -/

namespace Fields

variable {α : Type} {fields others : Fields α}

/-- Among unique names, what is found under a name is what stands there. -/
theorem get?_eq_some_iff (h : fields.names.Nodup) {name : String} {a : α} :
    get? fields name = some a ↔ (name, a) ∈ fields := by
  refine ⟨mem_of_get?, fun hmem => ?_⟩
  induction fields with
  | nil => cases hmem
  | cons f rest ih =>
    rw [names, List.map_cons, List.nodup_cons] at h
    rw [get?]
    rcases List.mem_cons.1 hmem with rfl | hmem
    · exact if_pos rfl
    · have hne : f.1 ≠ name := fun hname => h.1 (hname ▸ List.mem_map_of_mem hmem)
      rw [if_neg hne, ih h.2 hmem]

/-- Among unique names, the order of the names is one of the fields. -/
theorem sorted_eq_iff_perm (h : fields.names.Nodup) :
    sorted fields = sorted others ↔ fields.Perm others := by
  refine ⟨fun heq => (sorted_perm fields).symm.trans (heq ▸ sorted_perm others), fun hperm => ?_⟩
  have hsorted : (sorted fields).Perm (sorted others) :=
    (sorted_perm fields).trans (hperm.trans (sorted_perm others).symm)
  refine hsorted.eq_of_pairwise (fun a b ha hb hab hba => ?_)
    (List.pairwise_mergeSort precedes_trans precedes_total fields)
    (List.pairwise_mergeSort precedes_trans precedes_total others)
  have hname : a.1 = b.1 := String.le_antisymm (of_decide_eq_true hab) (of_decide_eq_true hba)
  exact List.inj_on_of_nodup_map h ((sorted_perm fields).subset ha)
    (hperm.symm.subset ((sorted_perm others).subset hb)) hname

end Fields

/-! ## Texts without halves of characters -/

namespace Text

/-- The units of a whole character are read back, whatever follows. -/
theorem ofUnits_units_append {c : Char} (h : half? c = none) (rest : List Nat) :
    ofUnits (units c ++ rest) = c :: ofUnits rest := by
  have hcode : code c = c.toNat := by rw [code, h, Option.getD_none]
  have hvalid : c.toNat < 0xD800 ∨ 0xDFFF < c.toNat ∧ c.toNat < 0x110000 := c.valid
  rw [units, hcode]
  split
  · have hunit : ofUnit c.toNat = c := by
      have hhalf : isHalf c.toNat = false := by
        rw [← Bool.not_eq_true, isHalf, Bool.and_eq_true, decide_eq_true_eq, decide_eq_true_eq,
          firstHalf, halfCount]
        omega
      rw [ofUnit, hhalf, if_neg Bool.false_ne_true, Char.ofNat_toNat]
    rw [List.singleton_append]
    cases rest with
    | nil => rw [ofUnits, ofUnits, hunit]
    | cons low rest =>
      have hpair : arePair c.toNat low = false := by
        simp only [arePair, Bool.and_eq_false_iff, decide_eq_false_iff_not]
        omega
      rw [ofUnits, hpair, if_neg Bool.false_ne_true, hunit]
  · have hpair : arePair (0xD800 + (c.toNat - 0x10000) / 0x400)
        (0xDC00 + (c.toNat - 0x10000) % 0x400) = true := by
      simp only [arePair, Bool.and_eq_true, decide_eq_true_eq]
      omega
    have hwhole : 0x10000 + (0xD800 + (c.toNat - 0x10000) / 0x400 - 0xD800) * 0x400 +
        (0xDC00 + (c.toNat - 0x10000) % 0x400 - 0xDC00) = c.toNat := by
      omega
    rw [List.cons_append, List.singleton_append, ofUnits, hpair, if_pos rfl, ofPair, hwhole,
      Char.ofNat_toNat]

/-- A text without halves of characters is told by its units. -/
theorem told_of_hasHalf {s : String} (h : hasHalf s = false) : Told s := by
  rw [hasHalf, List.any_eq_false] at h
  rw [Told]
  generalize s.toList = cs at h ⊢
  induction cs with
  | nil => rfl
  | cons c rest ih =>
    rw [List.forall_mem_cons] at h
    rw [List.flatMap_cons, ofUnits_units_append (by simpa using h.1), ih h.2]

end Text

/-! ## Exact values -/

namespace Value

mutual

/-- A JSON value without doubles, whose integers are not too long to be written. -/
def IsExact : Value → Prop
  | .null => True
  | .bool _ => True
  | .int n => tooManyDigits n = false
  | .text s => Text.Told s
  | .list items => AreExact items
  | .map entries => (Fields.names entries).Nodup ∧ EntriesExact entries
  | _ => False

/-- Items that are such values. -/
def AreExact : List Value → Prop
  | [] => True
  | v :: rest => v.IsExact ∧ AreExact rest

/-- Entries of such values. -/
def EntriesExact : List (String × Value) → Prop
  | [] => True
  | (name, v) :: rest => (Text.Told name ∧ v.IsExact) ∧ EntriesExact rest

end

theorem entriesExact_iff {entries : List (String × Value)} :
    EntriesExact entries ↔ ∀ e ∈ entries, Text.Told e.1 ∧ e.2.IsExact := by
  induction entries with
  | nil => simp [EntriesExact]
  | cons e rest ih => rw [EntriesExact, ih, List.forall_mem_cons]

mutual

theorem IsExact.isJson : ∀ {v : Value}, v.IsExact → v.IsJson
  | .null, _ => trivial
  | .bool _, _ => trivial
  | .int _, _ => trivial
  | .text _, h => h
  | .list _, h => AreExact.areJson h
  | .map _, h => EntriesExact.entriesJson h.2

theorem AreExact.areJson : ∀ {items : List Value}, AreExact items → AreJson items
  | [], _ => trivial
  | _ :: _, h => ⟨h.1.isJson, AreExact.areJson h.2⟩

theorem EntriesExact.entriesJson : ∀ {entries : List (String × Value)}, EntriesExact entries →
    EntriesJson entries
  | [], _ => trivial
  | _ :: _, h => ⟨⟨h.1.1, h.1.2.isJson⟩, EntriesExact.entriesJson h.2⟩

end

mutual

/-- Integers that are short enough are written. -/
theorem IsExact.hasHugeInt : ∀ {v : Value}, v.IsExact → v.hasHugeInt = false
  | .null, _ => rfl
  | .bool _, _ => rfl
  | .int _, h => h
  | .text _, _ => rfl
  | .list _, h => AreExact.hasHugeItem h
  | .map _, h => EntriesExact.hasHugeEntry h.2

theorem AreExact.hasHugeItem : ∀ {items : List Value}, AreExact items →
    Value.hasHugeItem items = false
  | [], _ => rfl
  | _ :: _, h => by
    rw [Value.hasHugeItem, h.1.hasHugeInt, AreExact.hasHugeItem h.2, Bool.false_or]

theorem EntriesExact.hasHugeEntry : ∀ {entries : List (String × Value)}, EntriesExact entries →
    Value.hasHugeEntry entries = false
  | [], _ => rfl
  | _ :: _, h => by
    rw [Value.hasHugeEntry, h.1.2.hasHugeInt, EntriesExact.hasHugeEntry h.2, Bool.false_or]

end

/-! ## Equality -/

mutual

/-- Equality of JSON values, blind to the order of map entries at every level. -/
def sameJson : Value → Value → Bool
  | .null, .null => true
  | .bool a, .bool b => a == b
  | .int m, .int n => m == n
  | .text s, .text t => s == t
  | .list xs, .list ys => sameJsonItems xs ys
  | .map xs, .map ys => xs.length == ys.length && sameJsonEntries xs ys
  | _, _ => false

/-- Equality of two lists, item by item. -/
def sameJsonItems : List Value → List Value → Bool
  | [], [] => true
  | x :: xs, y :: ys => sameJson x y && sameJsonItems xs ys
  | _, _ => false

/-- Whether every entry of the first map stands in the second. -/
def sameJsonEntries : List (String × Value) → List (String × Value) → Bool
  | [], _ => true
  | (name, x) :: xs, ys =>
    (match Fields.get? ys name with
      | some y => sameJson x y
      | none => false) && sameJsonEntries xs ys

end

theorem names_orderedEntries (entries : List (String × Value)) :
    Fields.names (orderedEntries entries) = Fields.names entries := by
  rw [orderedEntries_eq_map, Fields.names, List.map_map]
  rfl

/-- Maps with unique names are alike if they have as many entries, and under every name of the one
there is in the other a value that is alike. -/
theorem alike_map_iff {xs ys : List (String × Value)} (hx : (Fields.names xs).Nodup)
    (hy : (Fields.names ys).Nodup) :
    (Value.map xs).Alike (.map ys) ↔ xs.length = ys.length ∧
      ∀ e ∈ xs, ∃ y, Fields.get? ys e.1 = some y ∧ e.2.Alike y := by
  have hunique : (Fields.names (orderedEntries xs)).Nodup := by rwa [names_orderedEntries]
  have hlength : ∀ es, (orderedEntries es).length = es.length := fun es => by
    rw [orderedEntries_eq_map, List.length_map]
  have hstands : ∀ e : String × Value, (e.1, e.2.ordered) ∈ orderedEntries ys ↔
      ∃ y, Fields.get? ys e.1 = some y ∧ e.2.Alike y := by
    intro e
    rw [← Fields.get?_eq_some_iff (by rwa [names_orderedEntries]), get?_orderedEntries,
      Option.map_eq_some_iff]
    exact exists_congr fun y => and_congr_right fun _ => eq_comm
  rw [Alike, ordered, ordered, Value.map.injEq, Fields.sorted_eq_iff_perm hunique]
  constructor
  · intro hperm
    refine ⟨by rw [← hlength, hperm.length_eq, hlength], fun e he => (hstands e).1 ?_⟩
    rw [orderedEntries_eq_map xs] at hperm
    exact hperm.subset (List.mem_map_of_mem he)
  · rintro ⟨hsize, hentries⟩
    have hsubset : orderedEntries xs ⊆ orderedEntries ys := by
      rw [orderedEntries_eq_map xs]
      refine List.forall_mem_map.2 fun e he => (hstands e).2 (hentries e he)
    exact (List.subperm_of_subset hunique.of_map hsubset).perm_of_length_le
      (by rw [hlength, hlength, hsize])

mutual

/-- **Equality of JSON values is equality once all entries are in order.** -/
theorem sameJson_iff_alike : ∀ {v w : Value}, v.IsExact → w.IsExact →
    (sameJson v w = true ↔ v.Alike w)
  | .null, w, _, _ => by cases w <;> simp [sameJson, Alike, ordered]
  | .bool _, w, _, _ => by cases w <;> simp [sameJson, Alike, ordered]
  | .int _, w, _, _ => by cases w <;> simp [sameJson, Alike, ordered]
  | .text _, w, _, _ => by cases w <;> simp [sameJson, Alike, ordered]
  | .list xs, w, hv, hw => by
    cases w with
    | list ys =>
      rw [sameJson, sameJsonItems_iff hv hw, Alike, ordered, ordered, Value.list.injEq]
    | _ => simp [sameJson, Alike, ordered]
  | .map xs, w, hv, hw => by
    cases w with
    | map ys =>
      have hxs := fun e he => (entriesExact_iff.1 hv.2 e he).2
      have hys := fun e he => (entriesExact_iff.1 hw.2 e he).2
      rw [sameJson, Bool.and_eq_true, beq_iff_eq, sameJsonEntries_iff hxs hys,
        alike_map_iff hv.1 hw.1]
    | _ => simp [sameJson, Alike, ordered]

theorem sameJsonItems_iff : ∀ {xs ys : List Value}, AreExact xs → AreExact ys →
    (sameJsonItems xs ys = true ↔ orderedItems xs = orderedItems ys)
  | [], ys, _, _ => by cases ys <;> simp [sameJsonItems, orderedItems]
  | x :: xs, ys, hxs, hys => by
    cases ys with
    | nil => simp [sameJsonItems, orderedItems]
    | cons y ys =>
      rw [sameJsonItems, Bool.and_eq_true, sameJson_iff_alike hxs.1 hys.1,
        sameJsonItems_iff hxs.2 hys.2, orderedItems, orderedItems, List.cons.injEq, Alike]

theorem sameJsonEntries_iff : ∀ {xs ys : List (String × Value)}, (∀ e ∈ xs, e.2.IsExact) →
    (∀ e ∈ ys, e.2.IsExact) → (sameJsonEntries xs ys = true ↔
      ∀ e ∈ xs, ∃ y, Fields.get? ys e.1 = some y ∧ e.2.Alike y)
  | [], _, _, _ => by simp [sameJsonEntries]
  | (name, x) :: xs, ys, hxs, hys => by
    rw [List.forall_mem_cons] at hxs
    rw [sameJsonEntries, Bool.and_eq_true, sameJsonEntries_iff hxs.2 hys, List.forall_mem_cons]
    refine and_congr_left fun _ => ?_
    cases hfound : Fields.get? ys name with
    | none => simp
    | some y => simp [sameJson_iff_alike hxs.1 (hys _ (Fields.mem_of_get? hfound))]

end

end Value
end RecordRules
