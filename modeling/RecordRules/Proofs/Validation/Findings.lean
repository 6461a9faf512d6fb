import RecordRules.Proofs.Validator.Tables
import RecordRules.Validation.Issues

/-!
# Findings do not depend on earlier checks

A check by a validator can load it from a module, and the registry keeps it.  That is all that one
check leaves behind for the next, and it makes no difference: the next check would have found the
same validator in the same module.

* `Registry.Agrees`: two registries find the same validator under every name.
* `Checker.Agrees`: two checkers differ in no more than such registries, and `checkFieldRule_agrees`
  says that they find the same.
* `collect_eq_filterMap`: checks one after the other find what each of them finds by itself.
-/

set_option autoImplicit false

namespace RecordRules

/-! ## Registries -/

namespace Registry

variable {exits : Prop} {catalog : Catalog exits} {r r' r'' : Registry exits}

/-- Two registries find the same validator under every name, or fail in the same way. -/
def Agrees (catalog : Catalog exits) (r r' : Registry exits) : Prop :=
  ∀ name, (r'.get catalog name).map Prod.fst = (r.get catalog name).map Prod.fst

theorem Agrees.refl (r : Registry exits) : Agrees catalog r r := fun _ => rfl

theorem Agrees.trans (h : Agrees catalog r r') (h' : Agrees catalog r' r'') :
    Agrees catalog r r'' := fun name => (h' name).trans (h name)

/-- What a name stands for, apart from what the registry keeps of it. -/
theorem get_map_fst (r : Registry exits) (catalog : Catalog exits) (name : String) :
    (r.get catalog name).map Prod.fst =
      checkedName name >>= fun plain =>
        match r.validators.get? plain with
        | some v => .ok v
        | none => loadAttribute catalog plain >>= fun
          | .validator v => .ok v
          | .constant _ => .error (.notCallable plain) := by
  rw [get]
  cases checkedName name with
  | error e => rfl
  | ok plain =>
    rw [ok_bind, ok_bind]
    cases r.validators.get? plain with
    | some v => rfl
    | none =>
      dsimp only
      cases loadAttribute catalog plain with
      | error e => rfl
      | ok found => cases found <;> rfl

/-- Nothing changes for any name when a validator is kept under the path at which it was found. -/
theorem agrees_keep {plain : String} {v : Validator exits} (hnew : r.validators.get? plain = none)
    (hload : loadAttribute catalog plain = .ok (.validator v)) :
    Agrees catalog r (r.keep plain v) := by
  intro name
  rw [get_map_fst, get_map_fst]
  cases checkedName name with
  | error e => rfl
  | ok other =>
    rw [ok_bind, ok_bind, keep, Fields.get?_set]
    by_cases h : other = plain
    · subst h
      rw [if_pos rfl, hnew]
      dsimp only
      rw [hload, ok_bind]
    · rw [if_neg h]

theorem agrees_of_get {name : String} {v : Validator exits}
    (h : r.get catalog name = .ok (v, r')) : Agrees catalog r r' := by
  obtain ⟨-, ⟨-, rfl⟩ | ⟨hnew, hload, rfl⟩⟩ := get_eq_ok_cases h
  · exact .refl _
  · exact agrees_keep hnew hload

/-- **Registries that agree answer every call alike**, and still agree afterwards. -/
theorem Agrees.call (h : Agrees catalog r r') (name : String) (value : Value)
    (context : Fields Value) :
    (r'.call catalog name value context).1 = (r.call catalog name value context).1 ∧
      Agrees catalog r (r'.call catalog name value context).2 := by
  have hname := h name
  rw [Registry.call, Registry.call]
  cases hget' : r'.get catalog name with
  | error e =>
    rw [hget'] at hname
    cases hget : r.get catalog name with
    | error _ =>
      rw [hget] at hname
      cases hname
      exact ⟨rfl, h⟩
    | ok found =>
      rw [hget] at hname
      cases hname
  | ok found' =>
    obtain ⟨v, known'⟩ := found'
    rw [hget'] at hname
    cases hget : r.get catalog name with
    | error _ =>
      rw [hget] at hname
      cases hname
    | ok found =>
      obtain ⟨w, known⟩ := found
      rw [hget] at hname
      cases hname
      exact ⟨rfl, h.trans (agrees_of_get hget')⟩

end Registry

/-! ## Checkers -/

namespace Validation

/-- Two checkers differ at most in validators that one of them has loaded already. -/
structure Checker.Agrees (c c' : Checker) : Prop where
  limits : c'.limits = c.limits
  catalog : c'.catalog = c.catalog
  registry : c.registry.Agrees c.catalog c'.registry

theorem Checker.Agrees.refl (c : Checker) : c.Agrees c := ⟨rfl, rfl, .refl _⟩

variable {catalog : Catalog False} {r r' : Registry False}

theorem checkCustom_agrees (h : r.Agrees catalog r') (rule : Rule) (p : Property)
    (context : Expression.Context) (value : Value) :
    (checkCustom r' catalog rule p context value).1 =
        (checkCustom r catalog rule p context value).1 ∧
      r.Agrees catalog (checkCustom r' catalog rule p context value).2 := by
  rw [checkCustom.eq_def, checkCustom.eq_def]
  cases rule.metadata.get? "validator" with
  | none => exact ⟨rfl, h⟩
  | some named =>
    cases named with
    | text name =>
      dsimp only
      split
      · exact ⟨rfl, h⟩
      · obtain ⟨hanswer, hknown⟩ := h.call name value (context.set "value" value)
        rw [hanswer]
        exact ⟨rfl, hknown⟩
    | _ => exact ⟨rfl, h⟩

theorem checkValue_agrees (h : r.Agrees catalog r') (limits : Expression.Limits) (rule : Rule)
    (p : Property) (context : Expression.Context) (value : Value) :
    (checkValue limits r' catalog rule p context value).1 =
        (checkValue limits r catalog rule p context value).1 ∧
      r.Agrees catalog (checkValue limits r' catalog rule p context value).2 := by
  rw [checkValue, checkValue]
  cases rule.type with
  | custom => exact checkCustom_agrees h rule p context value
  | _ => exact ⟨rfl, h⟩

/-- **A rule finds the same whatever has been checked before**, and leaves it so. -/
theorem checkFieldRule_agrees {c c' : Checker} (h : c.Agrees c') (context : Expression.Context)
    (p : Property) (value : Value) (rule : Rule) :
    (checkFieldRule c' context p value rule).1 = (checkFieldRule c context p value rule).1 ∧
      c.Agrees (checkFieldRule c' context p value rule).2 := by
  obtain ⟨hfinding, hregistry⟩ := checkValue_agrees h.registry c.limits rule p context value
  rw [checkFieldRule, checkFieldRule, h.limits, h.catalog]
  dsimp only
  rw [hfinding]
  exact ⟨rfl, rfl, rfl, hregistry⟩

/-- **Checks one after the other find what each finds by itself**, if none of them depends on what
the others leave behind. -/
theorem collect_eq_filterMap {α : Type} {check : Checker → α → Option Issue × Checker}
    {c c' : Checker}
    (hcheck : ∀ c', c.Agrees c' → ∀ a, (check c' a).1 = (check c a).1 ∧ c.Agrees (check c' a).2)
    (h : c.Agrees c') (items : List α) :
    (collect check c' items).1 = items.filterMap (fun a => (check c a).1) ∧
      c.Agrees (collect check c' items).2 := by
  induction items generalizing c' with
  | nil => exact ⟨rfl, h⟩
  | cons a rest ih =>
    obtain ⟨hissue, hnext⟩ := hcheck c' h a
    obtain ⟨hrest, hlast⟩ := ih hnext
    refine ⟨?_, hlast⟩
    rw [collect]
    dsimp only
    rw [hissue, hrest, List.filterMap_cons]
    cases (check c a).1 <;> rfl

end Validation
end RecordRules
