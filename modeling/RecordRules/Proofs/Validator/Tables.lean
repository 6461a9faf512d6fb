import RecordRules.Proofs.Outcome
import RecordRules.Proofs.Text.Pieces
import RecordRules.Proofs.Value.Names
import RecordRules.Validator.Operation

/-!
# The tables of a registry

A registry has two tables, one of validators and one of descriptions.  A name enters both when it is
registered and when it is found by its path, be it for a call that then fails, and it leaves both
when it is unregistered.

A registration that fails can still have entered something.  If the description is no text, it ends
after the validator; if the validator has no name to report, it ends after both.

* `Registry.Changes` says all that an operation can do to a registry, and `Operation.run_changes`
  that it does no more.
* `Registry.InStep` is the invariant: the tables have the same names, all of them plain.  It is kept
  by every operation whose description, if any, is a text.  `Registry.Covered` is what is left of it
  after other operations.
* `Registry.Reachable.in_step` is the theorem about every registry that operations lead to.
-/

set_option autoImplicit false

namespace RecordRules

/-- A text with something in it and no blanks at its ends. -/
structure Text.IsPlain (s : String) : Prop where
  ne_empty : s ≠ ""
  trimmed : Text.trimmed s = s

theorem Text.trimmed_trimmed (s : String) : trimmed (trimmed s) = trimmed s := by
  rw [trimmed, trimmed, String.toList_ofList, trim_trim]

namespace Registry

variable {exits : Prop} {catalog : Catalog exits} {r r' : Registry exits} {name plain : String}
  {v : Validator exits} {op : Operation exits}

/-- A name that is not refused is plain once the blanks around it are gone. -/
theorem checkedName_eq_ok_iff :
    (checkedName name : Outcome exits String) = .ok plain ↔
      Text.trimmed name = plain ∧ Text.IsPlain plain := by
  rw [checkedName, guard_eq_ok_iff, Except.ok.injEq, String.isEmpty_iff]
  constructor
  · rintro ⟨hne, rfl⟩
    exact ⟨rfl, hne, Text.trimmed_trimmed name⟩
  · rintro ⟨rfl, hplain⟩
    exact ⟨hplain.ne_empty, rfl⟩

/-- A look-up finds what stands under a name, or else what is loaded, which is kept. -/
theorem get_eq_ok_cases (h : r.get catalog name = .ok (v, r')) :
    Text.IsPlain (Text.trimmed name) ∧
      (r.validators.get? (Text.trimmed name) = some v ∧ r' = r ∨
        r.validators.get? (Text.trimmed name) = none ∧
          loadAttribute catalog (Text.trimmed name) = .ok (.validator v) ∧
            r' = r.keep (Text.trimmed name) v) := by
  obtain ⟨plain, hplain, h⟩ := bind_eq_ok_iff.1 h
  obtain ⟨rfl, hplain⟩ := checkedName_eq_ok_iff.1 hplain
  refine ⟨hplain, ?_⟩
  cases hknown : r.validators.get? (Text.trimmed name) with
  | some known =>
    rw [hknown] at h
    cases h
    exact .inl ⟨rfl, rfl⟩
  | none =>
    rw [hknown] at h
    obtain ⟨found, hload, h⟩ := bind_eq_ok_iff.1 h
    cases found with
    | constant _ => cases h
    | validator v =>
      cases h
      exact .inr ⟨rfl, hload, rfl⟩

/-! ## Registrations -/

/-- Nothing speaks against a registration exactly if its name is plain and new and it comes with a
validator whose parameters can be told. -/
theorem accept_eq_ok_iff {what : Attribute exits} :
    r.accept name what = .ok (plain, v) ↔
      Text.trimmed name = plain ∧ Text.IsPlain plain ∧ what = .validator v ∧ v.obscure = none ∧
        r.validators.get? plain = none := by
  rw [accept, bind_eq_ok_iff]
  simp only [checkedName_eq_ok_iff]
  cases what with
  | constant value => simp
  | validator w =>
    cases hobscure : w.obscure with
    | some cause =>
      simp only [hobscure, reduceCtorEq, and_false, exists_false, Attribute.validator.injEq,
        false_iff]
      rintro ⟨-, -, rfl, hnone, -⟩
      rw [hobscure] at hnone
      cases hnone
    | none =>
      simp only [hobscure, guard_eq_ok_iff, Bool.not_eq_true, Fields.has_eq_false_iff, pure_eq_ok,
        Except.ok.injEq, Prod.mk.injEq, Attribute.validator.injEq]
      constructor
      · rintro ⟨plain, ⟨hname, hplain⟩, hnew, rfl, rfl⟩
        exact ⟨hname, hplain, rfl, hobscure, hnew⟩
      · rintro ⟨hname, hplain, rfl, -, hnew⟩
        exact ⟨plain, ⟨hname, hplain⟩, hnew, rfl, rfl⟩

/-- A description is a text, or as good as none. -/
def IsWording (description : Value) : Prop :=
  description.isPresent = true → ∃ s, description = .text s

theorem descriptionText_eq_ok_iff {description : Value} :
    (∃ text, (descriptionText description : Outcome exits String) = .ok text) ↔
      IsWording description := by
  unfold descriptionText IsWording
  split
  · exact iff_of_true ⟨_, rfl⟩ fun _ => ⟨_, rfl⟩
  · rename_i hother
    by_cases hpresent : description.isPresent = true
    · rw [if_pos hpresent]
      exact iff_of_false nofun fun h => (h hpresent).elim hother
    · rw [if_neg hpresent]
      exact iff_of_true ⟨_, rfl⟩ fun h => absurd h hpresent

/-- Adds a name with its validator and a description. -/
def add (r : Registry exits) (name : String) (v : Validator exits) (description : String) :
    Registry exits :=
  { validators := r.validators.set name v, descriptions := r.descriptions.set name description }

/-- Enters a name with its validator only. -/
def enter (r : Registry exits) (name : String) (v : Validator exits) : Registry exits :=
  { r with validators := r.validators.set name v }

/-- Removes a name. -/
def remove (r : Registry exits) (name : String) : Registry exits :=
  { validators := r.validators.erase name, descriptions := r.descriptions.erase name }

variable {what : Attribute exits} {description : Value}

/-- A registration that nothing speaks against enters the name in both tables if the description is
a text, whatever comes of its report. -/
theorem register_of_accept (h : r.accept name what = .ok (plain, v)) {text : String}
    (htext : (descriptionText description : Outcome exits String) = .ok text) :
    r.register name what description = (report v, r.add plain v text) := by
  rw [register, h]
  dsimp only
  rw [htext]
  rfl

/-- If the description is no text, only the table of validators gets the name. -/
theorem register_of_not_isWording (h : r.accept name what = .ok (plain, v))
    (hdescription : ¬ IsWording description) :
    ∃ e, r.register name what description = (.error e, r.enter plain v) := by
  rw [register, h]
  cases htext : (descriptionText description : Outcome exits String) with
  | error e => exact ⟨e, rfl⟩
  | ok text => exact absurd (descriptionText_eq_ok_iff.1 ⟨text, htext⟩) hdescription

/-! ## What an operation can do -/

/-- An operation is a registration that nothing speaks against. -/
def Operation.Enters (r : Registry exits) (op : Operation exits) : Prop :=
  ∃ name what description entry,
    op = .register name what description ∧ r.accept name what = .ok entry

/-- An operation does not come with a description that is no text. -/
def Operation.IsWorded (op : Operation exits) : Prop :=
  ∀ name what description, op = .register name what description → IsWording description

/-- What an operation can make of a registry: nothing else, one more name, or one name less. -/
inductive Changes (r : Registry exits) (op : Operation exits) : Registry exits → Prop
  | nothing : Changes r op r
  | added {name : String} (v : Validator exits) (description : String)
      (hplain : Text.IsPlain name) (hnew : r.validators.get? name = none) :
      Changes r op (r.add name v description)
  | entered {name : String} (v : Validator exits) (hop : op.Enters r) (hworded : ¬ op.IsWorded)
      (hplain : Text.IsPlain name) (hnew : r.validators.get? name = none) :
      Changes r op (r.enter name v)
  | removed {given : String} (h : op = .unregister given) :
      Changes r op (r.remove (Text.trimmed given))

/-- The tables have the same names, in the same order, and all of them are plain. -/
structure InStep (r : Registry exits) : Prop where
  names : r.descriptions.names = r.validators.names
  plain : ∀ name ∈ r.validators.names, Text.IsPlain name

/-- Only names of validators have descriptions, and all of them are plain. -/
structure Covered (r : Registry exits) : Prop where
  names : ∀ name ∈ r.descriptions.names, name ∈ r.validators.names
  plain : ∀ name ∈ r.validators.names, Text.IsPlain name

theorem InStep.covered (h : r.InStep) : r.Covered where
  names := by
    rw [h.names]
    exact fun _ => id
  plain := h.plain

theorem register_changes (r : Registry exits) (name : String) (what : Attribute exits)
    (description : Value) :
    Changes r (.register name what description) (r.register name what description).2 := by
  cases haccept : r.accept name what with
  | error e =>
    rw [register, haccept]
    exact .nothing
  | ok entry =>
    obtain ⟨plain, v⟩ := entry
    obtain ⟨-, hplain, -, -, hnew⟩ := accept_eq_ok_iff.1 haccept
    by_cases hdescription : IsWording description
    · obtain ⟨text, htext⟩ := descriptionText_eq_ok_iff.2 hdescription
      rw [register_of_accept haccept htext]
      exact .added v text hplain hnew
    · obtain ⟨e, he⟩ := register_of_not_isWording haccept hdescription
      rw [he]
      exact .entered v ⟨name, what, description, _, rfl, haccept⟩
        (fun hworded => hdescription (hworded _ _ _ rfl)) hplain hnew

/-- No description is left of a name that is not there. -/
theorem Covered.keep_eq (h : r.Covered) (hnew : r.validators.get? name = none) :
    r.keep name v = r.add name v "" := by
  have hdescription : r.descriptions.has name = false := by
    rw [Bool.eq_false_iff, ne_eq, Fields.has_iff_mem_names]
    intro hmem
    have hhas := Fields.has_iff_mem_names.2 (h.names name hmem)
    rw [Fields.has_eq_false_iff.2 hnew] at hhas
    cases hhas
  rw [keep, hdescription]
  rfl

theorem Covered.get_changes (hr : r.Covered) (h : r.get catalog name = .ok (v, r')) :
    Changes r op r' := by
  obtain ⟨hplain, ⟨-, rfl⟩ | ⟨hnew, -, rfl⟩⟩ := get_eq_ok_cases h
  · exact .nothing
  · rw [hr.keep_eq hnew]
    exact .added v "" hplain hnew

theorem unregister_changes {there : Bool} (h : r.unregister name = .ok (there, r')) :
    Changes r (.unregister name) r' := by
  obtain ⟨plain, hplain, h⟩ := bind_eq_ok_iff.1 h
  obtain ⟨rfl, -⟩ := checkedName_eq_ok_iff.1 hplain
  split at h
  · cases h
    exact .removed rfl
  · cases h
    exact .nothing

/-- A call leaves the registry that looking up its validator leaves, whatever the validator does. -/
theorem Operation.run_call (r : Registry exits) (catalog : Catalog exits) (name : String)
    (value : Value) (context : Fields Value) :
    ((Operation.call name value context).run catalog r).2 =
      ((Operation.get name).run catalog r).2 := by
  rw [run, run, Registry.call]
  cases r.get catalog name with
  | error e => rfl
  | ok found => rfl

/-- **What an operation does to a registry**: nothing, or it adds or removes one name. -/
theorem Operation.run_changes (catalog : Catalog exits) (h : r.Covered) (op : Operation exits) :
    Changes r op (op.run catalog r).2 := by
  have hget : ∀ {other : Operation exits} (name : String),
      Changes r other ((Operation.get name).run catalog r).2 := by
    intro other name
    rw [run]
    cases hfound : r.get catalog name with
    | error e => exact .nothing
    | ok found => exact h.get_changes hfound
  cases op with
  | register name what description => exact register_changes r name what description
  | get name => exact hget name
  | call name value context =>
    rw [run_call]
    exact hget name
  | contains name => exact .nothing
  | unregister name =>
    rw [run]
    cases hdone : r.unregister name with
    | error e => exact .nothing
    | ok done => exact unregister_changes hdone

/-! ## Runs -/

theorem not_mem_names_of_get? (hnew : r.validators.get? name = none) :
    name ∉ r.validators.names := by
  rw [← Fields.has_iff_mem_names, Bool.not_eq_true, Fields.has_eq_false_iff]
  exact hnew

theorem names_enter (hnew : r.validators.get? name = none) :
    (r.enter name v).validators.names = r.validators.names ++ [name] :=
  Fields.names_set_of_new (not_mem_names_of_get? hnew) v

theorem Covered.names_add (h : r.Covered) (hnew : r.validators.get? name = none)
    (description : String) :
    (r.add name v description).descriptions.names = r.descriptions.names ++ [name] :=
  Fields.names_set_of_new (mt (h.names name) (not_mem_names_of_get? hnew)) description

/-- Every name is plain as long as new ones are. -/
theorem Changes.all_plain (h : Changes r op r')
    (hr : ∀ name ∈ r.validators.names, Text.IsPlain name) :
    ∀ name ∈ r'.validators.names, Text.IsPlain name := by
  have hentered : ∀ {new : String} {v : Validator exits}, Text.IsPlain new →
      r.validators.get? new = none →
      ∀ name ∈ (r.enter new v).validators.names, Text.IsPlain name := by
    intro new v hplain hnew name hname
    rw [names_enter hnew, List.mem_append, List.mem_singleton] at hname
    rcases hname with hold | rfl
    · exact hr name hold
    · exact hplain
  cases h with
  | nothing => exact hr
  | added v description hplain hnew => exact hentered hplain hnew
  | entered v _ _ hplain hnew => exact hentered hplain hnew
  | removed _ =>
    intro name hname
    rw [remove, Fields.names_erase] at hname
    exact hr name (List.mem_of_mem_filter hname)

theorem Changes.covered (h : Changes r op r') (hr : r.Covered) : r'.Covered := by
  refine ⟨?_, h.all_plain hr.plain⟩
  cases h with
  | nothing => exact hr.names
  | @added new v description hplain hnew =>
    intro name hname
    rw [hr.names_add hnew, List.mem_append] at hname
    rw [add, Fields.names_set_of_new (not_mem_names_of_get? hnew), List.mem_append]
    exact hname.imp_left (hr.names name)
  | @entered new v _ _ hplain hnew =>
    intro name hname
    rw [names_enter hnew, List.mem_append]
    exact .inl (hr.names name hname)
  | removed _ =>
    intro name hname
    rw [remove, Fields.names_erase, List.mem_filter] at hname ⊢
    exact hname.imp_left (hr.names name)

theorem Changes.inStep (h : Changes r op r') (hop : op.Enters r → op.IsWorded) (hr : r.InStep) :
    r'.InStep := by
  refine ⟨?_, h.all_plain hr.plain⟩
  cases h with
  | nothing => exact hr.names
  | added v description hplain hnew =>
    rw [hr.covered.names_add hnew, hr.names, add,
      Fields.names_set_of_new (not_mem_names_of_get? hnew)]
  | entered v henters hworded _ _ => exact absurd (hop henters) hworded
  | removed _ => rw [remove, Fields.names_erase, Fields.names_erase, hr.names]

/-- An operation unregisters a name, with any blanks around it. -/
def Operation.Removes (name : String) (op : Operation exits) : Prop :=
  ∃ given, op = .unregister given ∧ Text.trimmed given = name

/-- A validator stays under its name until it is unregistered. -/
theorem Changes.retains (h : Changes r op r') (hop : ¬ op.Removes name)
    (hname : r.validators.get? name = some v) : r'.validators.get? name = some v := by
  have hentered : ∀ {new : String} {w : Validator exits}, r.validators.get? new = none →
      (r.validators.set new w).get? name = some v := by
    intro new w hnew
    have hne : name ≠ new := by
      rintro rfl
      rw [hnew] at hname
      cases hname
    rw [Fields.get?_set_other _ _ hne]
    exact hname
  cases h with
  | nothing => exact hname
  | added w description hplain hnew => exact hentered hnew
  | entered w _ _ hplain hnew => exact hentered hnew
  | @removed given hunregister =>
    have hne : name ≠ Text.trimmed given := fun heq => hop ⟨given, hunregister, heq.symm⟩
    rw [Registry.remove, Fields.get?_erase, if_neg hne]
    exact hname

theorem InStep.after (h : r.InStep) (catalog : Catalog exits) {operations : List (Operation exits)}
    (hworded : ∀ op ∈ operations, op.IsWorded) : (r.after catalog operations).InStep := by
  induction operations generalizing r with
  | nil => exact h
  | cons op rest ih =>
    rw [List.forall_mem_cons] at hworded
    exact ih ((op.run_changes catalog h.covered).inStep (fun _ => hworded.1) h) hworded.2

theorem Covered.after_retains (h : r.Covered) (catalog : Catalog exits)
    (hname : r.validators.get? name = some v) {operations : List (Operation exits)}
    (hkept : ∀ op ∈ operations, ¬ op.Removes name) :
    (r.after catalog operations).validators.get? name = some v := by
  induction operations generalizing r with
  | nil => exact hname
  | cons op rest ih =>
    rw [List.forall_mem_cons] at hkept
    have hstep := op.run_changes catalog h
    exact ih (hstep.covered h) (hstep.retains hkept.1 hname) hkept.2

/-- Operations with descriptions that are texts lead to the registry from an empty one. -/
def Reachable (catalog : Catalog exits) (r : Registry exits) : Prop :=
  ∃ operations : List (Operation exits),
    (∀ op ∈ operations, op.IsWorded) ∧ after catalog {} operations = r

theorem Reachable.inStep (h : r.Reachable catalog) : r.InStep := by
  obtain ⟨operations, hworded, rfl⟩ := h
  have hempty : ({} : Registry exits).InStep := ⟨rfl, nofun⟩
  exact hempty.after catalog hworded

/-! ## Look-ups -/

theorem InStep.contains_iff (h : r.InStep) :
    r.contains name = true ↔ Text.trimmed name ∈ r.list.names := by
  rw [list, h.names, ← Fields.has_iff_mem_names, contains]
  cases hplain : (checkedName name : Outcome exits String) with
  | ok plain => rw [(checkedName_eq_ok_iff.1 hplain).1]
  | error e =>
    -- a name that is refused is not in the tables either
    refine iff_of_false nofun fun hhas => ?_
    have hok : (checkedName name : Outcome exits String) = .ok (Text.trimmed name) :=
      checkedName_eq_ok_iff.2 ⟨rfl, h.plain _ (Fields.has_iff_mem_names.1 hhas)⟩
    rw [hplain] at hok
    cases hok

/-- A validator that is there is found, whatever blanks are around its name. -/
theorem get_of_get? (catalog : Catalog exits) (hplain : Text.IsPlain (Text.trimmed name))
    (hname : r.validators.get? (Text.trimmed name) = some v) :
    r.get catalog name = .ok (v, r) := by
  rw [get, checkedName_eq_ok_iff.2 ⟨rfl, hplain⟩, ok_bind, hname]
  rfl

theorem call_of_get (h : r.get catalog name = .ok (v, r')) (value : Value)
    (context : Fields Value) :
    r.call catalog name value context =
      ((v.run value context).mapError (callError name), r') := by
  rw [call, h]

/-- What a registration that nothing speaks against leaves behind is another registry. -/
theorem Operation.Enters.run_ne (h : op.Enters r) (catalog : Catalog exits) :
    (op.run catalog r).2 ≠ r := by
  obtain ⟨name, what, description, ⟨plain, v⟩, rfl, haccept⟩ := h
  obtain ⟨-, -, -, -, hnew⟩ := accept_eq_ok_iff.1 haccept
  have hthere : (r.register name what description).2.validators.get? plain = some v := by
    by_cases hdescription : IsWording description
    · obtain ⟨text, htext⟩ := descriptionText_eq_ok_iff.2 hdescription
      rw [register_of_accept haccept htext]
      exact Fields.get?_set_self ..
    · obtain ⟨e, he⟩ := register_of_not_isWording haccept hdescription
      rw [he]
      exact Fields.get?_set_self ..
  intro hsame
  rw [run] at hsame
  dsimp only at hsame
  rw [hsame, hnew] at hthere
  cases hthere

/-- An operation that fails changes nothing, unless it is a call or a registration that nothing
speaks against. -/
theorem Operation.run_error (hop : ∀ name value context, op ≠ .call name value context)
    {e : RegistryError exits} (h : (op.run catalog r).1 = .error e) :
    (op.run catalog r).2 = r ↔ ¬ op.Enters r := by
  refine ⟨fun hsame henters => henters.run_ne catalog hsame, fun henters => ?_⟩
  cases op with
  | call name value context => exact absurd rfl (hop name value context)
  | contains name => rfl
  | register name what description =>
    rw [run, Registry.register]
    cases haccept : r.accept name what with
    | error e => rfl
    | ok entry => exact absurd ⟨_, _, _, entry, rfl, haccept⟩ henters
  | get name =>
    rw [run] at h ⊢
    cases hfound : r.get catalog name with
    | error e => rfl
    | ok found =>
      rw [hfound] at h
      cases h
  | unregister name =>
    rw [run] at h ⊢
    cases hdone : r.unregister name with
    | error e => rfl
    | ok done =>
      rw [hdone] at h
      cases h

/-- An operation brings the tables out of step exactly if it is a registration that nothing speaks
against but a description that is no text. -/
theorem InStep.run_iff (h : r.InStep) (catalog : Catalog exits) (op : Operation exits) :
    (op.run catalog r).2.InStep ↔ (op.Enters r → op.IsWorded) := by
  constructor
  · rintro hafter ⟨name, what, description, ⟨plain, v⟩, rfl, haccept⟩ _ _ _ ⟨⟩
    by_contra hdescription
    obtain ⟨e, he⟩ := register_of_not_isWording haccept hdescription
    obtain ⟨-, -, -, -, hnew⟩ := accept_eq_ok_iff.1 haccept
    rw [Operation.run, he] at hafter
    have hnames := hafter.names
    rw [names_enter hnew] at hnames
    rw [enter, h.names] at hnames
    simp at hnames
  · exact fun hop => (op.run_changes catalog h.covered).inStep hop h

/-- **The tables of a registry stay in step** as long as every description is a text.

* The same names stand in both tables; none is empty or has blanks at its ends.
* A name is contained exactly if it is listed once the blanks around it are gone.
* An operation that fails and is no call changes nothing, except exactly for a registration that
  nothing speaks against.
* The tables are in step after any further operation, except exactly after a registration that
  nothing speaks against but a description that is no text.
* A validator that stands under a name is found and called under that name, with any blanks around
  it, after any further operations of which none unregisters the name. -/
theorem Reachable.in_step (h : r.Reachable catalog) :
    (∀ name, name ∈ r.validators.names ↔ name ∈ r.descriptions.names) ∧
      (∀ name ∈ r.validators.names, Text.IsPlain name) ∧
      (∀ name, r.contains name = true ↔ Text.trimmed name ∈ r.list.names) ∧
      (∀ op : Operation exits, (∀ name value context, op ≠ .call name value context) → ∀ e,
        (op.run catalog r).1 = .error e → ((op.run catalog r).2 = r ↔ ¬ op.Enters r)) ∧
      (∀ op : Operation exits, (op.run catalog r).2.InStep ↔ (op.Enters r → op.IsWorded)) ∧
      ∀ name v, r.validators.get? name = some v → ∀ operations : List (Operation exits),
        (∀ op ∈ operations, ¬ op.Removes name) → ∀ given, Text.trimmed given = name →
          (r.after catalog operations).get catalog given = .ok (v, r.after catalog operations) ∧
            ∀ value context, (r.after catalog operations).call catalog given value context =
              ((v.run value context).mapError (callError given),
                r.after catalog operations) := by
  have hr := h.inStep
  refine ⟨fun name => by rw [hr.names], hr.plain, fun name => hr.contains_iff,
    fun op hop e he => Operation.run_error hop he, fun op => hr.run_iff catalog op,
    fun name v hname operations hkept given hgiven => ?_⟩
  have hmem : name ∈ r.validators.names := by
    rw [← Fields.has_iff_mem_names, Fields.has, hname]
    rfl
  have hlater := hr.covered.after_retains catalog hname hkept
  have hget := get_of_get? catalog (hgiven ▸ hr.plain name hmem) (hgiven ▸ hlater)
  exact ⟨hget, fun value context => call_of_get hget value context⟩

namespace Checks

/-- Refuses to look at null. -/
def present : Validator False where
  title := .function "present"
  run
    | .null, _ => .error (.error ⟨.value, "nothing to check"⟩)
    | _, _ => .ok (.bool true)

/-- Refuses everything. -/
def never : Validator False where
  title := .function "never"
  run _ _ := .ok (.bool false)

/-- A module with a validator and something that is none. -/
def modules : Catalog False :=
  { modules := [("checks",
      .ok [("present", .ok (.validator present)), ("limit", .ok (.constant (.int 5)))])] }

/-- One validator comes in by a call that fails, one is registered, and one is not found. -/
def setUp : List (Operation False) :=
  [.call " checks.present" .null [], .register "never " (.validator never) (.text "Fails. "),
    .get "checks.limit"]

/-- Attempts to put another validator in the place of the first. -/
def attempts : List (Operation False) :=
  [.register "checks.present" (.validator never) (.int 1), .get "checks.present",
    .unregister "never"]

end Checks

/-- The validator of the failed call is listed, and stays. -/
theorem in_step_checks :
    (after Checks.modules {} Checks.setUp).contains "checks.present	" = true ∧
      (after Checks.modules {} Checks.setUp).list =
        [("checks.present", ""), ("never", "Fails.")] ∧
      ((after Checks.modules {} Checks.setUp).after Checks.modules Checks.attempts).call
          Checks.modules "  checks.present" (.int 1) [] =
        (.ok (.bool true),
          (after Checks.modules {} Checks.setUp).after Checks.modules Checks.attempts) := by
  have hworded : ∀ op ∈ Checks.setUp, op.IsWorded := by
    rintro op hop name what description rfl -
    simp only [Checks.setUp, List.mem_cons, List.not_mem_nil, or_false, reduceCtorEq, false_or,
      Operation.register.injEq] at hop
    exact ⟨_, hop.2.2⟩
  have hreachable : Reachable Checks.modules (after Checks.modules {} Checks.setUp) :=
    ⟨Checks.setUp, hworded, rfl⟩
  obtain ⟨-, -, hcontains, -, -, hstays⟩ := hreachable.in_step
  have hkept : ∀ op ∈ Checks.attempts, ¬ op.Removes "checks.present" := by
    rintro op hop ⟨given, rfl, hgiven⟩
    simp only [Checks.attempts, List.mem_cons, List.not_mem_nil, or_false, reduceCtorEq,
      false_or, Operation.unregister.injEq] at hop
    subst hop
    exact absurd hgiven (by decide)
  have hthere : (after Checks.modules {} Checks.setUp).validators.get? "checks.present" =
      some Checks.present := rfl
  have htrimmed : Text.trimmed "  checks.present" = "checks.present" := by decide
  refine ⟨(hcontains _).2 (by decide), rfl, ?_⟩
  rw [(hstays _ _ hthere _ hkept _ htrimmed).2]
  rfl

/-- The checks of a range, as an object that can be called but has no name. -/
def Checks.range : Validator False where
  title := .object "functools.partial"
  run _ _ := .ok (.bool true)

/-- Registering an object without a name fails, and registers it.  With a description that is no
text only the validator is entered, and the tables are out of step. -/
theorem register_fails_late :
    (∃ e, (({} : Registry False).register "range" (.validator Checks.range) (.text "")).1 =
        .error e ∧
      e.toFailure.message = "'functools.partial' object has no attribute '__name__'" ∧
      (({} : Registry False).register "range" (.validator Checks.range) (.text "")).2.list =
        [("range", "")]) ∧
    ∃ e r, ({} : Registry False).register "never" (.validator Checks.never) (.int 5) =
        (.error e, r) ∧
      e.toFailure.message = "'int' object has no attribute 'strip'" ∧
      r.contains "never" = true ∧ r.list = [] :=
  ⟨⟨.nameless "functools.partial" "__name__", rfl, rfl, rfl⟩,
    .wordless "int", _, rfl, rfl, rfl, rfl⟩

end Registry
end RecordRules
