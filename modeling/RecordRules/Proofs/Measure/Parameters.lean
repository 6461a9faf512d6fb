import RecordRules.Proofs.Json.Exact
import RecordRules.Proofs.Measure.Keys

/-!
# Keys tell the parameters

Of one measure, and with parameters of the same names, two keys are the same text exactly if the
parameters are the same values.  Names stand in the key as they are, commas and equals signs in them
included; since they are the same in both keys, the first value begins at the same place, and a
value in JSON says where it ends.

* `keyParts_eq_iff`: parameters under the same names have one text if their ordered values are
  equal.
* `cacheKey_eq_iff` is the statement for keys, and for the equality of JSON values.
-/

set_option autoImplicit false

namespace RecordRules

namespace Fields

variable {α β : Type}

/-- Fields of the same names have them in the same order once they are sorted. -/
theorem names_sorted_eq {fields : Fields α} {others : Fields β}
    (h : fields.names.Perm others.names) : (sorted fields).names = (sorted others).names := by
  have hperm : ∀ {γ : Type} (fs : Fields γ), (sorted fs).names.Perm fs.names :=
    fun fs => (sorted_perm fs).map Prod.fst
  have hordered : ∀ {γ : Type} (fs : Fields γ), (sorted fs).names.Pairwise (· ≤ ·) := fun fs =>
    List.pairwise_map.2 ((List.pairwise_mergeSort precedes_trans precedes_total fs).imp
      fun hle => of_decide_eq_true hle)
  exact ((hperm fields).trans (h.trans (hperm others).symm)).eq_of_pairwise
    (fun a b _ _ => String.le_antisymm) (hordered fields) (hordered others)

end Fields

namespace Measure

variable {ps qs : Fields Value}

/-- The text of parameters does not see the order of entries. -/
theorem keyParts_congr (h : Value.orderedEntries ps = Value.orderedEntries qs) :
    keyParts ps = keyParts qs := by
  induction ps generalizing qs with
  | nil =>
    cases qs with
    | nil => rfl
    | cons e' rest' => cases h
  | cons e rest ih =>
    cases qs with
    | nil => cases h
    | cons e' rest' =>
      rw [Value.orderedEntries, Value.orderedEntries, List.cons.injEq, Prod.mk.injEq] at h
      obtain ⟨⟨hname, hvalue⟩, hrest⟩ := h
      have hlength : rest.length = rest'.length := by
        have h := congrArg List.length hrest
        rwa [Value.orderedEntries_eq_map, Value.orderedEntries_eq_map, List.length_map,
          List.length_map] at h
      rw [keyParts_cons, keyParts_cons, Json.encode_byName, Json.encode_byName, hname, hvalue,
        (keyTail_eq_iff hlength).2 (ih hrest)]

/-- Under the same names, one text means equal ordered values, and the other way round. -/
theorem keyParts_eq_iff (hnames : ps.names = qs.names) (hps : ∀ e ∈ ps, e.2.IsJson)
    (hqs : ∀ e ∈ qs, e.2.IsJson) :
    keyParts ps = keyParts qs ↔ Value.orderedEntries ps = Value.orderedEntries qs :=
  ⟨orderedEntries_eq_of_keyParts hnames hps hqs, keyParts_congr⟩

/-- Sorting the parameters first does not matter to which of them are alike. -/
theorem orderedEntries_sorted_eq_iff :
    Value.orderedEntries (Fields.sorted ps) = Value.orderedEntries (Fields.sorted qs) ↔
      (Value.map ps).Alike (.map qs) := by
  have hsorted : ∀ fs : Fields Value, Value.orderedEntries (Fields.sorted fs) =
      Fields.sorted (Value.orderedEntries fs) := fun fs => by
    rw [Value.orderedEntries_eq_map, Value.orderedEntries_eq_map, Fields.sorted_map]
  rw [hsorted, hsorted, Value.Alike, Value.ordered, Value.ordered, Value.map.injEq]

theorem cacheKey_of_isExact (identifier : String) (version : Int)
    (h : ∀ e ∈ ps, e.2.IsExact) :
    cacheKey identifier version ps = .ok (identifier ++ ":" ++ toString version ++ ":" ++
      String.ofList (keyParts (Fields.sorted ps))) := by
  rw [cacheKey, if_neg]
  rw [Bool.not_eq_true, List.any_eq_false]
  exact fun e he => Bool.eq_false_iff.1 (h e he).hasHugeInt

/-- **The key of a measure tells its parameters.**  For parameters of the same names, whatever these
are, with JSON values without doubles: there are keys, and they are the same exactly if the
parameters are equal as JSON maps. -/
theorem cacheKey_eq_iff (identifier : String) (version : Int) {ps qs : Fields Value}
    (hps : ps.names.Nodup) (hqs : qs.names.Nodup)
    (hnames : ∀ name, name ∈ ps.names ↔ name ∈ qs.names)
    (hp : ∀ e ∈ ps, e.2.IsExact) (hq : ∀ e ∈ qs, e.2.IsExact) :
    ∃ key key', cacheKey identifier version ps = .ok key ∧
      cacheKey identifier version qs = .ok key' ∧
      (key = key' ↔ Value.sameJson (.map ps) (.map qs) = true) := by
  refine ⟨_, _, cacheKey_of_isExact identifier version hp,
    cacheKey_of_isExact identifier version hq, ?_⟩
  have hsorted : ∀ {fs : Fields Value}, (∀ e ∈ fs, e.2.IsExact) →
      ∀ e ∈ Fields.sorted fs, e.2.IsJson :=
    fun h e he => (h e ((Fields.sorted_perm _).subset he)).isJson
  have hperm : ps.names.Perm qs.names := (List.perm_ext_iff_of_nodup hps hqs).2 hnames
  rw [String.append_right_inj, String.ofList_inj,
    keyParts_eq_iff (Fields.names_sorted_eq hperm) (hsorted hp) (hsorted hq),
    orderedEntries_sorted_eq_iff, Value.alike_map_iff hps hqs, Value.sameJson, Bool.and_eq_true,
    beq_iff_eq, Value.sameJsonEntries_iff hp hq]

namespace Report

/-- A note with the marks of a key in it. -/
def note : Value := .text "a=1,b=\"2\""

/-- Limits of a report. -/
def limits (low : Int) : List (String × Value) := [("low", .int low), ("high", .list [.null])]

/-- Parameters of a report. -/
def parameters (low : Int) : Fields Value := [("note", note), ("limits", .map (limits low))]

/-- The same parameters in another order. -/
def reordered (low : Int) : Fields Value :=
  [("limits", .map (limits low).reverse), ("note", note)]

theorem note_isExact : note.IsExact := Text.told_of_hasHalf (by decide)

theorem isExact {low : Int} (h : tooManyDigits low = false) :
    (∀ e ∈ parameters low, e.2.IsExact) ∧ ∀ e ∈ reordered low, e.2.IsExact := by
  have hlow : Text.Told "low" := Text.told_of_hasHalf (by decide)
  have hhigh : Text.Told "high" := Text.told_of_hasHalf (by decide)
  have hunique : (["low", "high"] : List String).Nodup := by decide
  have hlimits : (Value.map (limits low)).IsExact :=
    ⟨hunique, ⟨hlow, h⟩, ⟨hhigh, trivial, trivial⟩, trivial⟩
  have hreverse : (Value.map (limits low).reverse).IsExact :=
    ⟨List.nodup_reverse.2 hunique, ⟨hhigh, trivial, trivial⟩, ⟨hlow, h⟩, trivial⟩
  exact ⟨List.forall_mem_cons.2 ⟨note_isExact, List.forall_mem_singleton.2 hlimits⟩,
    List.forall_mem_cons.2 ⟨hreverse, List.forall_mem_singleton.2 note_isExact⟩⟩

end Report

/-- The order of names makes no difference to the key of a report, at any level; the sign of a limit
does. -/
theorem cacheKey_eq_iff_report :
    (∃ key, cacheKey "report" 1 (Report.parameters 1) = .ok key ∧
        cacheKey "report" 1 (Report.reordered 1) = .ok key) ∧
      ∃ key key', cacheKey "report" 1 (Report.parameters 1) = .ok key ∧
        cacheKey "report" 1 (Report.parameters (-1)) = .ok key' ∧ key ≠ key' := by
  have hdigits : tooManyDigits 1 = false ∧ tooManyDigits (-1) = false := by decide +kernel
  obtain ⟨hone, hreordered⟩ := Report.isExact hdigits.1
  obtain ⟨hother, -⟩ := Report.isExact hdigits.2
  have hnames : ∀ name, name ∈ (Report.parameters 1).names ↔
      name ∈ (Report.reordered 1).names := fun _ => (List.Perm.swap _ _ []).mem_iff
  have hsame : ∀ name, name ∈ (Report.parameters 1).names ↔
      name ∈ (Report.parameters (-1)).names := fun _ => Iff.rfl
  obtain ⟨key, key', hkey, hkey', hiff⟩ :=
    cacheKey_eq_iff "report" 1 (by decide) (by decide) hnames hone hreordered
  obtain ⟨positive, negative, hpositive, hnegative, hne⟩ :=
    cacheKey_eq_iff "report" 1 (by decide) (by decide) hsame hone hother
  refine ⟨⟨key, hkey, ?_⟩, positive, negative, hpositive, hnegative, ?_⟩
  · rw [hkey', hiff.2 (by decide)]
  · exact fun heq => absurd (hne.1 heq) (by decide)

end Measure
end RecordRules
