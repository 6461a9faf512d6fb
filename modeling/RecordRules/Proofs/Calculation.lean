import RecordRules.Calculation
import RecordRules.Proofs.Outcome
import RecordRules.Proofs.Store.Keys

/-!
# Calculated fields do not see one another

The fold over the properties carries the record that it returns, but every expression is evaluated
in one context, which was made before.  So whether a property stops the fold does not depend on the
others, and as the names of properties are unique, what the fold returns under a name was put there
by one property at most:

* `Writable` are the properties whose value can be reported; the fold comes to its end exactly if
  all of them are (`calculate_eq_error_iff`).
* `get?_of_foldlM_setValue` reads a field of the result off the property of that name.
* `get?_of_calculate` is the same for an entity: the value of the calculated property of that name,
  if it has one, and otherwise the field as it was given.
* `property?_of_perm`: which property has a name does not depend on their order.
* `calculate_independent` says what follows for the fields of a record.
* `calculate_unset` says what becomes of a property whose expression fails: it is left as it was
  given, which is unset only if nothing was given under its name.
-/

set_option autoImplicit false

namespace RecordRules

/-- Which property has a name does not depend on the order of the properties. -/
theorem Entity.property?_of_perm {e other : Entity} (h : other.properties.Perm e.properties)
    (name : String) : other.property? name = e.property? name := by
  refine Option.ext fun p => ?_
  rw [property?, property?, find?_key_eq_some_iff other.unique, find?_key_eq_some_iff e.unique,
    h.mem_iff]

theorem Entity.property?_of_mem {e : Entity} {p : Property} (h : p ∈ e.properties) :
    e.property? p.name = some p :=
  (find?_key_eq_some_iff e.unique).2 ⟨h, rfl⟩

namespace Calculation

variable {limits : Expression.Limits} {given : Expression.Context} {p : Property}

/-! ## One property -/

/-- Only calculated properties have a value. -/
theorem value?_eq_none (h : p.type ≠ .calculated) : value? limits given p = none := if_neg h

/-- The value of a calculated property is that of its expression. -/
theorem value?_eq_some (htype : p.type = .calculated) {expression : String} {v : Value}
    (hexpression : p.expression? = some expression)
    (hvalue : Expression.evaluate limits given expression = .ok v) :
    value? limits given p = some v := by
  have hsome : expression.isEmpty ≠ true := by
    intro hempty
    rw [String.isEmpty_iff.1 hempty] at hvalue
    cases hvalue
  rw [value?, if_pos htype, hexpression]
  dsimp only
  rw [if_neg hsome, hvalue]
  rfl

/-- The value of a property, if it has one, can be reported. -/
def Writable (limits : Expression.Limits) (given : Expression.Context) (p : Property) : Prop :=
  ∀ v, value? limits given p = some v → v.hasHugeInt = false

/-- A property that can be reported sets the field of its name if it has a value, and no other. -/
theorem setValue_of_writable (h : Writable limits given p) (result : Fields Value) :
    ∃ after, setValue limits given result p = .ok after ∧ ∀ key, after.get? key =
      if p.name = key then (value? limits given p).or (result.get? key) else result.get? key := by
  rw [setValue]
  cases hvalue : value? limits given p with
  | none => exact ⟨result, rfl, fun key => by simp⟩
  | some v =>
    dsimp only
    rw [Value.written?, h v hvalue]
    refine ⟨_, rfl, fun key => ?_⟩
    rw [Fields.get?_set, Option.some_or]
    by_cases hkey : p.name = key
    · rw [if_pos hkey, if_pos hkey.symm]
    · rw [if_neg hkey, if_neg (Ne.symm hkey)]

/-- A property that cannot be reported stops the computation. -/
theorem setValue_of_not_writable (h : ¬ Writable limits given p) (result : Fields Value) :
    setValue limits given result p = .error ValueError.integerTextTooLong.toFailure := by
  obtain ⟨v, hvalue, hhuge⟩ : ∃ v, value? limits given p = some v ∧ v.hasHugeInt = true := by
    simpa [Writable] using h
  rw [setValue, hvalue]
  dsimp only
  rw [Value.written?, if_pos hhuge]

/-! ## All properties -/

/-- All properties are set if all of them can be reported; otherwise there is no result. -/
theorem foldlM_setValue (properties : List Property) (result : Fields Value) :
    ((∀ p ∈ properties, Writable limits given p) ∧
        ∃ after, properties.foldlM (setValue limits given) result = .ok after) ∨
      (∃ p ∈ properties, ¬ Writable limits given p) ∧
        properties.foldlM (setValue limits given) result =
          .error ValueError.integerTextTooLong.toFailure := by
  induction properties generalizing result with
  | nil => exact .inl ⟨nofun, result, rfl⟩
  | cons p rest ih =>
    rw [List.foldlM_cons, List.forall_mem_cons, List.exists_mem_cons_iff]
    by_cases h : Writable limits given p
    · obtain ⟨after, hafter, -⟩ := setValue_of_writable h result
      rw [hafter, ok_bind]
      exact (ih after).imp (fun ⟨hrest, hdone⟩ => ⟨⟨h, hrest⟩, hdone⟩)
        fun ⟨hrest, hfails⟩ => ⟨.inr hrest, hfails⟩
    · rw [setValue_of_not_writable h]
      exact .inr ⟨.inl h, rfl⟩

/-- A field after all properties have been set: what the one property of its name has set, or what
was there before. -/
theorem get?_of_foldlM_setValue {properties : List Property}
    (hunique : (properties.map Property.name).Nodup) {result after : Fields Value}
    (h : properties.foldlM (setValue limits given) result = .ok after) (key : String) :
    after.get? key =
      ((properties.find? fun p => p.name == key).bind (value? limits given)).or
        (result.get? key) := by
  induction properties generalizing result with
  | nil =>
    cases h
    rfl
  | cons p rest ih =>
    rw [List.map_cons, List.nodup_cons] at hunique
    rw [List.foldlM_cons] at h
    by_cases hp : Writable limits given p
    · obtain ⟨next, hnext, hfields⟩ := setValue_of_writable hp result
      rw [hnext, ok_bind] at h
      rw [ih hunique.2 h, hfields]
      by_cases hkey : p.name = key
      · have hrest : (rest.find? fun q => q.name == key) = none := by
          rw [List.find?_eq_none]
          intro q hq hname
          exact hunique.1 (List.mem_map.2 ⟨q, hq, (eq_of_beq hname).trans hkey.symm⟩)
        rw [if_pos hkey, hrest, List.find?_cons_of_pos (by simpa using hkey)]
        rfl
      · rw [if_neg hkey, List.find?_cons_of_neg (by simpa using hkey)]
    · rw [setValue_of_not_writable hp] at h
      cases h

section Calculate

variable (limits : Expression.Limits) (entity : Entity) (data : Fields Value)
  (parent : Option (Fields Value))

/-- There is a result, or a property that cannot be reported and a failure that says so. -/
theorem calculate_cases :
    ((∀ p ∈ entity.properties, Writable limits (context data parent) p) ∧
        ∃ result, calculate limits entity data parent = .ok result) ∨
      (∃ p ∈ entity.properties, ¬ Writable limits (context data parent) p) ∧
        calculate limits entity data parent =
          .error ValueError.integerTextTooLong.toFailure :=
  foldlM_setValue entity.properties data

/-- There is no result exactly if a property cannot be reported. -/
theorem calculate_eq_error_iff {e : Failure} :
    calculate limits entity data parent = .error e ↔
      (∃ p ∈ entity.properties, ¬ Writable limits (context data parent) p) ∧
        e = ValueError.integerTextTooLong.toFailure := by
  rcases calculate_cases limits entity data parent with ⟨hall, result, hok⟩ | ⟨hsome, herror⟩
  · rw [hok]
    exact iff_of_false nofun fun ⟨⟨p, hp, hnot⟩, _⟩ => hnot (hall p hp)
  · rw [herror, Except.error.injEq, eq_comm]
    exact (and_iff_right hsome).symm

variable {limits entity data parent}

/-- **A field of the result** is the value of the calculated property of its name, if it has one,
and otherwise the field as it was given. -/
theorem get?_of_calculate {result : Fields Value}
    (h : calculate limits entity data parent = .ok result) (key : String) :
    result.get? key =
      ((entity.property? key).bind (value? limits (context data parent))).or (data.get? key) :=
  get?_of_foldlM_setValue entity.unique h key

/-- The result is the same, key by key, whatever the order of the properties. -/
theorem calculate_of_perm {other : Entity} (h : other.properties.Perm entity.properties)
    (key : String) :
    (calculate limits other data parent).map (·.get? key) =
      (calculate limits entity data parent).map (·.get? key) := by
  cases hentity : calculate limits entity data parent with
  | error e =>
    obtain ⟨⟨p, hp, hnot⟩, rfl⟩ := (calculate_eq_error_iff limits entity data parent).1 hentity
    rw [(calculate_eq_error_iff limits other data parent).2 ⟨⟨p, h.mem_iff.2 hp, hnot⟩, rfl⟩]
  | ok result =>
    cases hother : calculate limits other data parent with
    | error e =>
      obtain ⟨⟨p, hp, hnot⟩, rfl⟩ := (calculate_eq_error_iff limits other data parent).1 hother
      rw [(calculate_eq_error_iff limits entity data parent).2 ⟨⟨p, h.mem_iff.1 hp, hnot⟩, rfl⟩]
        at hentity
      cases hentity
    | ok result' =>
      refine congrArg Except.ok ?_
      dsimp only
      rw [get?_of_calculate hother, get?_of_calculate hentity, Entity.property?_of_perm h]

end Calculate

/-- **Calculated fields are computed independently, from the data as it was given.**

* There is no result exactly if the value of a calculated property holds an integer with too many
  digits to be written, and the failure says so.
* In a result, a key that names no calculated property keeps its value, or stays absent.
* A calculated property whose expression has a value in the context of the given data has this value
  in the result.
* What a result has under the name of a property does not depend on the other properties.
* The order of the properties makes no difference: neither to whether there is a result, nor to any
  key of it. -/
theorem calculate_independent (limits : Expression.Limits) (entity : Entity)
    (data parent : Option (Fields Value)) :
    (∀ e, calculate limits entity (data.getD []) parent = .error e ↔
        (∃ p ∈ entity.properties, ∃ v,
          value? limits (context (data.getD []) parent) p = some v ∧ v.hasHugeInt = true) ∧
          e = ValueError.integerTextTooLong.toFailure) ∧
      (∀ result, calculate limits entity (data.getD []) parent = .ok result →
        (∀ key, (∀ p ∈ entity.properties, p.type = .calculated → p.name ≠ key) →
            result.get? key = (data.getD []).get? key) ∧
          (∀ p ∈ entity.properties, p.type = .calculated → ∀ expression v,
            p.expression? = some expression →
            Expression.evaluate limits (context (data.getD []) parent) expression = .ok v →
            result.get? p.name = some v) ∧
          ∀ other : Entity, ∀ p ∈ entity.properties, p ∈ other.properties → ∀ result',
            calculate limits other (data.getD []) parent = .ok result' →
              result'.get? p.name = result.get? p.name) ∧
      ∀ other : Entity, other.properties.Perm entity.properties → ∀ key,
        (calculate limits other (data.getD []) parent).map (·.get? key) =
          (calculate limits entity (data.getD []) parent).map (·.get? key) := by
  refine ⟨fun e => ?_, fun result hresult => ⟨fun key hkey => ?_,
    fun p hp htype expression v hexpression hvalue => ?_,
    fun other p hp hother result' hresult' => ?_⟩, fun other hperm => calculate_of_perm hperm⟩
  · rw [calculate_eq_error_iff]
    simp [Writable]
  · rw [get?_of_calculate hresult]
    cases hfind : entity.property? key with
    | none => rfl
    | some p =>
      obtain ⟨hp, hname⟩ := (find?_key_eq_some_iff entity.unique).1 hfind
      rw [Option.bind_some, value?_eq_none fun htype => hkey p hp htype hname, Option.none_or]
  · rw [get?_of_calculate hresult, Entity.property?_of_mem hp, Option.bind_some,
      value?_eq_some htype hexpression hvalue, Option.some_or]
  · rw [get?_of_calculate hresult', get?_of_calculate hresult, Entity.property?_of_mem hp,
      Entity.property?_of_mem hother]

namespace Memo

/-- A property of memos, which is calculated if there is an expression for it. -/
def property (name : String) (type : PropertyType) (calculation : Option String) : Property :=
  { name, type, label := none, required := false, readOnly := false, denormalize := false
    calculation, metadata := [] }

/-- Memos with a title, a copy of it, and a field that asks for the copy. -/
def entity : Entity :=
  { id := "memo", name := "Memo", workflowId := none
    properties := [property "title" .string none, property "copy" .calculated (some "title"),
      property "echo" .calculated (some "copy")]
    unique := by decide }

/-- Memos with the same fields in the opposite order. -/
def reversed : Entity :=
  { id := "memo", name := "Memo", workflowId := none
    properties := entity.properties.reverse
    unique := by decide }

/-- A memo. -/
def data : Fields Value := [("title", .text "Draft")]

end Memo

/-- The copy of the title is not there yet when it is asked for, so the text of that expression
stands for itself; and so it does if the copy is declared later. -/
theorem calculate_independent_memo :
    ∃ result, calculate {} Memo.entity Memo.data none = .ok result ∧
      result.get? "title" = some (.text "Draft") ∧ result.get? "copy" = some (.text "Draft") ∧
      result.get? "echo" = some (.text "copy") ∧
      ∀ key, (calculate {} Memo.reversed Memo.data none).map (·.get? key) =
        .ok (result.get? key) := by
  obtain ⟨-, hfields, hperm⟩ := calculate_independent {} Memo.entity (some Memo.data) none
  have hresult : calculate {} Memo.entity Memo.data none = .ok
    [("title", .text "Draft"), ("copy", .text "Draft"), ("echo", .text "copy")] := rfl
  obtain ⟨hkept, hset, -⟩ := hfields _ hresult
  have hcopy : Memo.property "copy" .calculated (some "title") ∈ Memo.entity.properties :=
    List.mem_cons_of_mem _ List.mem_cons_self
  have hecho : Memo.property "echo" .calculated (some "copy") ∈ Memo.entity.properties :=
    List.mem_cons_of_mem _ (List.mem_cons_of_mem _ List.mem_cons_self)
  have htitle : ∀ p ∈ Memo.entity.properties, p.type = .calculated → p.name ≠ "title" := by decide
  refine ⟨_, hresult, (hkept "title" htitle).trans rfl, hset _ hcopy rfl "title" _ rfl rfl,
    hset _ hecho rfl "copy" _ rfl rfl, fun key => ?_⟩
  refine (hperm Memo.reversed (List.reverse_perm _) key).trans ?_
  rw [Option.getD_some, hresult]
  rfl

namespace Memo

/-- Memos with a number, and another one that is to be the same. -/
def numbered : Entity :=
  { id := "memo", name := "Memo", workflowId := none
    properties := [property "same" .calculated (some "number")]
    unique := by decide }

/-- A memo with the number `10 ^ 4300`, which has one digit too many to be written. -/
def countless : Fields Value := [("number", .int (tenTo digitLimit))]

end Memo

/-- The expression of the one calculated property has a value, and there is no result. -/
theorem calculate_fails_countless :
    Expression.evaluate {} (context Memo.countless none) "number" = .ok (.int (tenTo digitLimit)) ∧
      (calculate {} Memo.numbered Memo.countless none).isOk = false := by
  have hvalue : value? {} (context Memo.countless none)
      (Memo.property "same" .calculated (some "number")) = some (.int (tenTo digitLimit)) := rfl
  have hhuge : Value.hasHugeInt (.int (tenTo digitLimit)) = true := by decide +kernel
  have herror := (calculate_eq_error_iff {} Memo.numbered Memo.countless none).2
    ⟨⟨_, List.mem_singleton_self _, fun h => by rw [h _ hvalue] at hhuge; cases hhuge⟩, rfl⟩
  exact ⟨rfl, by rw [herror]; rfl⟩

/-! ## Failing expressions -/

/-- A calculated property has the value of its expression, if the expression has one. -/
theorem value?_eq_some_iff (htype : p.type = .calculated) {v : Value} :
    value? limits given p = some v ↔ ∃ expression, p.expression? = some expression ∧
      Expression.evaluate limits given expression = .ok v := by
  constructor
  · intro h
    rw [value?, if_pos htype] at h
    cases hexpression : p.expression? with
    | none =>
      rw [hexpression] at h
      cases h
    | some expression =>
      rw [hexpression] at h
      dsimp only at h
      split at h
      · cases h
      · refine ⟨expression, rfl, ?_⟩
        cases hvalue : Expression.evaluate limits given expression with
        | error e =>
          rw [hvalue] at h
          cases h
        | ok w =>
          rw [hvalue] at h
          cases h
          rfl
  · rintro ⟨expression, hexpression, hvalue⟩
    exact value?_eq_some htype hexpression hvalue

theorem value?_eq_none_of_error (htype : p.type = .calculated) {expression : String}
    {e : Expression.Error} (hexpression : p.expression? = some expression)
    (herror : Expression.evaluate limits given expression = .error e) :
    value? limits given p = none := by
  rw [Option.eq_none_iff_forall_not_mem]
  rintro v hv
  obtain ⟨other, hother, hvalue⟩ := (value?_eq_some_iff htype).1 hv
  rw [hexpression] at hother
  cases hother
  rw [herror] at hvalue
  cases hvalue

/-- **A calculated property is unset if its expression fails**, provided that it was not set before.
In every result:

* A calculated property whose expression fails is unset exactly if it was unset in the data as it
  was given.
* Where nothing was given under the name of a calculated property, all that the result can have
  there is the value of its expression in the context of the given data. -/
theorem calculate_unset (limits : Expression.Limits) (entity : Entity)
    (data parent : Option (Fields Value)) (result : Fields Value)
    (h : calculate limits entity (data.getD []) parent = .ok result) :
    ∀ p ∈ entity.properties, p.type = .calculated →
      (∀ expression e, p.expression? = some expression →
        Expression.evaluate limits (context (data.getD []) parent) expression = .error e →
        (result.get? p.name = none ↔ (data.getD []).get? p.name = none)) ∧
      ((data.getD []).get? p.name = none → ∀ v,
        (result.get? p.name = some v ↔
          ∃ expression, p.expression? = some expression ∧
            Expression.evaluate limits (context (data.getD []) parent) expression = .ok v)) := by
  intro p hp htype
  rw [get?_of_calculate h, Entity.property?_of_mem hp, Option.bind_some]
  refine ⟨fun expression e hexpression herror => ?_, fun hunset v => ?_⟩
  · rw [value?_eq_none_of_error htype hexpression herror, Option.none_or]
  · rw [hunset, Option.or_none]
    exact value?_eq_some_iff htype

namespace Memo

/-- Twice the number of words, which no memo has. -/
def size : Property := property "size" .calculated (some "words * 2")

/-- Memos with a size. -/
def sized : Entity :=
  { id := "memo", name := "Memo", workflowId := none, properties := [size], unique := by decide }

/-- A memo that was given a size. -/
def outdated : Fields Value := [("size", .text "old")]

end Memo

/-- The size of a memo without words is unset. -/
theorem calculate_unset_memo :
    ∃ result, calculate {} Memo.sized Memo.data none = .ok result ∧ result.get? "size" = none :=
  ⟨Memo.data, rfl,
    ((calculate_unset {} Memo.sized (some Memo.data) none Memo.data rfl Memo.size
      (List.mem_singleton_self _) rfl).1 "words * 2"
        ⟨.notNumeric .multiply, some "words * 2".toList⟩ rfl rfl).2 rfl⟩

/-- A size that was given stays where its expression fails. -/
theorem calculate_stale :
    Expression.evaluate {} (context Memo.outdated none) "words * 2" =
        .error ⟨.notNumeric .multiply, some "words * 2".toList⟩ ∧
      ∃ result, calculate {} Memo.sized Memo.outdated none = .ok result ∧
        result.get? "size" = some (.text "old") :=
  ⟨rfl, Memo.outdated, rfl, rfl⟩

end Calculation
end RecordRules
