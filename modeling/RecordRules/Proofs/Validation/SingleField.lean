import RecordRules.Proofs.Validation.Independence

/-!
# Checking one field

A check of a single field finds what a check of the record with that value finds about the field.

* `filter_recordIssues`: of the issues of a record, those about a field are those that the rules
  about it find.
* `fieldIssues_eq`: so are the issues of a check of the field.
* `fieldIssues_agree` is the theorem.
-/

set_option autoImplicit false

namespace RecordRules
namespace Validation

open Database

variable {db : Database} {t : Tables} {checker : Checker} {entityId : String} {e : Entity}
  {p : Property} {data : Fields Value} {event : Option String}
  {previous : Option (Fields Value)}

/-! ## What issues are about -/

/-- Whether an issue is about a field, and about which. -/
def isAboutField (name : String) (i : Issue) : Bool :=
  i.level == .field && i.propertyName == some name

theorem isAboutField_of_checkFieldRule {known : Expression.Context} {value : Value} {rule : Rule}
    {i : Issue} (h : (checkFieldRule checker known p value rule).1 = some i) (name : String) :
    isAboutField name i = (p.name == name) := by
  rw [checkFieldRule] at h
  dsimp only at h
  rw [fieldIssue?.eq_def] at h
  split at h
  · cases h
  · cases h
    simp [isAboutField]
  · cases h
    simp [isAboutField]

theorem isAboutField_of_expressionIssue? {limits : Expression.Limits} {known : Expression.Context}
    {level : Scope} {default : String} {rule : Rule} {i : Issue}
    (h : expressionIssue? limits known level default rule = some i) (name : String) :
    isAboutField name i = false := by
  rw [expressionIssue?] at h
  split at h
  · cases h
  · cases h
    simp [isAboutField]

/-- The issues that the rules about a field find. -/
def issuesOfField (t : Tables) (checker : Checker) (entityId : String) (e : Entity)
    (data : Fields Value) (event : Option String) (previous : Option (Fields Value))
    (p : Property) : List Issue :=
  (rulesOfField t entityId event p).filterMap fun rule =>
    (checkFieldRule checker (context e (some data) previous event) p
      ((data.get? p.name).getD .null) rule).1

/-- Of the issues that the rules about a field find, all are about it. -/
theorem filter_issuesOfField (name : String) :
    (issuesOfField t checker entityId e data event previous p).filter (isAboutField name) =
      if p.name = name then issuesOfField t checker entityId e data event previous p else [] := by
  have hall : ∀ i ∈ issuesOfField t checker entityId e data event previous p,
      isAboutField name i = (p.name == name) := by
    intro i hi
    obtain ⟨rule, -, hissue⟩ := List.mem_filterMap.1 hi
    exact isAboutField_of_checkFieldRule hissue name
  split
  · rename_i hname
    exact List.filter_eq_self.2 fun i hi => by rw [hall i hi, hname, beq_self_eq_true]
  · rename_i hname
    refine List.filter_eq_nil_iff.2 fun i hi => ?_
    rw [hall i hi, beq_eq_false_iff_ne.2 hname]
    exact Bool.false_ne_true

/-- The issues of a rule that is not about a field are not about one, either. -/
theorem filter_expressionIssues {rules : List Rule} {limits : Expression.Limits}
    {known : Expression.Context} {level : Scope} {default : String} (name : String) :
    (rules.filterMap (expressionIssue? limits known level default)).filter (isAboutField name) =
      [] := by
  refine List.filter_eq_nil_iff.2 fun i hi => ?_
  obtain ⟨rule, -, hissue⟩ := List.mem_filterMap.1 hi
  rw [isAboutField_of_expressionIssue? hissue]
  exact Bool.false_ne_true

/-- Property names are unique, so one property has all the issues about a field. -/
theorem filter_flatMap_issuesOfField (hp : p ∈ e.properties) :
    (e.properties.flatMap (issuesOfField t checker entityId e data event previous)).filter
        (isAboutField p.name) =
      issuesOfField t checker entityId e data event previous p := by
  obtain ⟨before, after, hsplit⟩ := List.append_of_mem hp
  have hunique := e.unique
  rw [hsplit, List.map_append, List.map_cons, List.nodup_append, List.nodup_cons] at hunique
  obtain ⟨-, ⟨hafter, -⟩, hbefore⟩ := hunique
  have hothers : ∀ ps : List Property, (∀ q ∈ ps, q.name ≠ p.name) →
      (ps.flatMap (issuesOfField t checker entityId e data event previous)).filter
        (isAboutField p.name) = [] := by
    intro ps hps
    rw [List.filter_flatMap, List.flatMap_eq_nil_iff]
    intro q hq
    rw [filter_issuesOfField, if_neg (hps q hq)]
  rw [hsplit, List.flatMap_append, List.flatMap_cons, List.filter_append, List.filter_append,
    filter_issuesOfField, if_pos rfl, hothers before, hothers after, List.nil_append,
    List.append_nil]
  · exact fun q hq hname => hafter (hname ▸ List.mem_map_of_mem hq)
  · exact fun q hq hname => hbefore _ (List.mem_map_of_mem hq) _ List.mem_cons_self hname

/-- Of the issues of a record, those about a field are those that the rules about it find. -/
theorem filter_recordIssues (hp : p ∈ e.properties) :
    (recordScopes.flatMap (issuesOfScope t checker entityId e data event previous)).filter
        (isAboutField p.name) =
      issuesOfField t checker entityId e data event previous p := by
  rw [flatMap_recordScopes, List.filter_append, List.filter_append, issuesOfScope, issuesOfScope,
    issuesOfScope, filter_expressionIssues, filter_expressionIssues, List.append_nil,
    List.append_nil]
  exact filter_flatMap_issuesOfField hp

/-! ## Checks of a field -/

/-- **The issues of a field**, rule by rule. -/
theorem fieldIssues_eq (ht : db.tables = some t) (he : findEntity db entityId = .ok e)
    (hp : p ∈ e.properties) (checker : Checker) (value : Value) (data : Fields Value) :
    (fieldIssues db checker entityId p.name value data).map Prod.fst =
      .ok (issuesOfField t checker entityId e (data.set p.name value) (some updateEvent) none
        p) := by
  have hproperty : e.property? p.name = some p := (find?_key_eq_some_iff e.unique).2 ⟨hp, rfl⟩
  obtain ⟨hfound, -⟩ := @collect_eq_filterMap _
    (fun checker a => checkFieldRule checker
      (context e (some (data.set p.name value)) none (some updateEvent)) a.1 value a.2) _ _
    (fun _ hc a => checkFieldRule_agrees hc _ a.1 _ a.2) (.refl checker)
    ((rulesOfField t entityId (some updateEvent) p).map fun r => (p, r))
  rw [fieldIssues, he, ok_bind, hproperty]
  dsimp only
  rw [fieldRules_eq ht, ok_bind, pure_eq_ok]
  change Except.ok _ = _
  rw [hfound, List.filterMap_map, issuesOfField, Fields.get?_set_self, Option.getD_some]
  rfl

theorem exists_of_map_fst {α β : Type} {x : Result (α × β)} {a : α}
    (h : x.map Prod.fst = .ok a) : ∃ b, x = .ok (a, b) := by
  obtain ⟨⟨a', b⟩, hx, rfl⟩ := map_eq_ok_iff.1 h
  exact ⟨b, hx⟩

/-- **A check of one field agrees with a check of the record.**  For every value of a property of an
entity, and whatever else the record consists of, a check of the field succeeds, and so does a check
of the record with that value on an update.  The issues of the field are those of the record that
are about the field, in their order: whatever the rules read, and also if they cannot be checked. -/
theorem fieldIssues_agree (he : findEntity db entityId = .ok e) (hp : p ∈ e.properties)
    (checker : Checker) (value : Value) (data : Option (Fields Value)) :
    ∃ found issues after after',
      fieldIssues db checker entityId p.name value (data.getD []) = .ok (found, after) ∧
      recordIssues db checker entityId ((data.getD []).set p.name value) (some updateEvent) none =
        .ok (issues, after') ∧
      found = issues.filter (isAboutField p.name) := by
  obtain ⟨t, ht⟩ := tables_of_findEntity he
  obtain ⟨after, hfield⟩ := exists_of_map_fst (fieldIssues_eq ht he hp checker value (data.getD []))
  have hissues := recordIssues_eq ht checker entityId ((data.getD []).set p.name value)
    (some updateEvent) none
  rw [he] at hissues
  obtain ⟨after', hrecord⟩ := exists_of_map_fst hissues
  exact ⟨_, _, after, after', hfield, hrecord, (filter_recordIssues hp).symm⟩

end Validation

/-! The title of a letter must not be its author, and the rule about the author is broken. -/

namespace Letter

/-- A rule about a property of letters, on every event. -/
def constantRule (id propertyName : String) (kind : RuleType) (expression : Option String)
    (metadata : Fields Value) : StoredRule :=
  ⟨{ rule id propertyName kind metadata with expression, triggerEvents := [] }, true⟩

/-- Letters and the rules about them. -/
def ruledTables : Tables :=
  { entities := [letter]
    rules := [constantRule "distinct" "title" .expression (some "value != author") [],
      constantRule "known" "author" .custom none [("validator", .text "no.such")]] }

/-- The database of these tables. -/
def ruled : Database := { tables := some ruledTables }

/-- The rules that find fault, if a check succeeds. -/
def faultedBy (found : Result (List Issue × Validation.Checker)) : Option (List (Option String)) :=
  found.toOption.map fun found => found.1.map Issue.ruleId

end Letter

open Validation in
/-- The author as the title is found fault with in a check of the title; a check of the letter also
finds that the author cannot be checked. -/
theorem fieldIssues_agree_title :
    Letter.faultedBy (fieldIssues Letter.ruled {} "letter" "title" (.text "x")
        [("author", .text "x")]) = some [some "distinct"] ∧
      Letter.faultedBy (recordIssues Letter.ruled {} "letter"
        (Fields.set [("author", .text "x")] "title" (.text "x")) (some updateEvent) none) =
          some [some "known", some "distinct"] ∧
      ∃ found issues after after',
        fieldIssues Letter.ruled {} "letter" "title" (.text "x") [("author", .text "x")] =
          .ok (found, after) ∧
        recordIssues Letter.ruled {} "letter"
          (Fields.set [("author", .text "x")] "title" (.text "x")) (some updateEvent) none =
            .ok (issues, after') ∧
        found = issues.filter (isAboutField "title") := by
  have hentity : findEntity Letter.ruled "letter" = .ok Letter.letter := rfl
  have hproperty : Letter.property "title" ∈ Letter.letter.properties :=
    List.mem_cons_of_mem _ List.mem_cons_self
  exact ⟨by decide +kernel, by decide +kernel,
    fieldIssues_agree hentity hproperty {} (.text "x") (some [("author", .text "x")])⟩

end RecordRules
