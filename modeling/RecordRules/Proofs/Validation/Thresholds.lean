import RecordRules.Proofs.Expression.Agreement
import RecordRules.Proofs.Expression.Literals
import RecordRules.Proofs.Validation.Independence
import RecordRules.Proofs.Validation.Relevance

/-!
# Conditions that compare a field with an integer

A condition such as `amount >= 5` reads one field of a record, the one that it names.  There is one
exception: a text is looked up as a whole before it is taken apart, so a field whose name is the
whole condition decides it.

* `Threshold`: a condition that compares a field with an integer.
* `Threshold.evaluate_eq`: its outcome depends on what stands under the name and under the whole
  text.
* `Shows`: what stands under a name when a record is checked.
* `transitionIssues_threshold` is the theorem about transitions, and `transitionIssues_shadowed` the
  exception.
-/

set_option autoImplicit false

namespace RecordRules

open Expression

/-! ## Thresholds -/

/-- The name of a field: a letter, then letters, digits and underscores, and none of the words that
are literals. -/
structure IsFieldName (name : String) : Prop where
  head : ∃ c rest, name.toList = c :: rest ∧ c.isAlpha = true
  word : ∀ c ∈ name.toList, Text.isWord c = true
  free : name ∉ Value.literalWords

/-- A condition that compares a field with an integer, with any blanks around its parts. -/
structure Threshold where
  name : String
  op : Comparison
  negative : Bool
  digits : List Char
  /-- The blanks before and after the operator. -/
  left : List Char
  right : List Char
  /-- The blanks before and after the whole. -/
  before : List Char
  after : List Char
  isName : IsFieldName name
  nonempty : digits ≠ []
  isDigits : ∀ c ∈ digits, Text.isDigit c = true
  isBlanks : ∀ c ∈ left ++ right ++ before ++ after, Text.isBlank c = true

namespace Threshold

variable (h : Threshold)

/-- The text of the integer. -/
def number : List Char := Value.integerText h.negative h.digits

/-- The condition without the blanks around it. -/
def key : List Char := h.name.toList ++ ((h.left ++ h.op.symbol ++ h.right) ++ h.number)

/-- The text of the condition. -/
def text : String := String.ofList (h.before ++ h.key ++ h.after)

variable {h} {c d : Context} {limits : Limits}

theorem isTight_name : Text.IsTight h.name.toList := by
  obtain ⟨c, rest, hname, -⟩ := h.isName.head
  exact .of_forall (by simp [hname]) fun c hc => Text.isBlank_of_isWord (h.isName.word c hc)

theorem isTight_number : Text.IsTight h.number := by
  refine .of_forall ?_ fun c hc => ?_
  · cases hn : h.negative <;> simp [number, Value.integerText, hn, h.nonempty]
  · rcases Value.mem_integerText h.isDigits hc with rfl | hdigit
    · decide
    · exact Text.isBlank_of_isDigit hdigit

theorem trim_text : Text.trim h.text.toList = h.key := by
  have hblank := h.isBlanks
  rw [text, String.toList_ofList]
  exact (isTight_name.append isTight_number _).trim_append _ _
    (fun c hc => hblank c (by simp [hc])) fun c hc => hblank c (by simp [hc])

/-- A comparison mark stands neither in a word nor in an integer nor among blanks. -/
theorem of_mem_comparisonMarks : ∀ c ∈ comparisonMarks, Text.isBlank c = false ∧
    Text.isWord c = false ∧ Text.isDigit c = false ∧ c ≠ '-' := by
  intro c hc
  simp only [comparisonMarks, List.mem_cons, List.not_mem_nil, or_false] at hc
  rcases hc with rfl | rfl | rfl | rfl <;> decide

/-- The operator is the only comparison in the condition. -/
theorem findComparison?_key :
    findComparison? h.key = some (h.op, h.name.toList ++ h.left, h.right ++ h.number) := by
  have hname : ∀ c ∈ comparisonMarks, c ∉ h.name.toList := by
    intro c hc hmem
    obtain ⟨-, hword, -⟩ := of_mem_comparisonMarks c hc
    exact Bool.false_ne_true (hword.symm.trans (h.isName.word c hmem))
  have hblank : ∀ c ∈ comparisonMarks, c ∉ h.left ++ h.right ++ h.before ++ h.after := by
    intro c hc hmem
    obtain ⟨hnone, -⟩ := of_mem_comparisonMarks c hc
    exact Bool.false_ne_true (hnone.symm.trans (h.isBlanks c hmem))
  have hnumber : ∀ c ∈ comparisonMarks, c ∉ h.number := by
    intro c hc hmem
    obtain ⟨-, -, hdigit, hminus⟩ := of_mem_comparisonMarks c hc
    rcases Value.mem_integerText h.isDigits hmem with rfl | hmem
    · exact hminus rfl
    · exact Bool.false_ne_true (hdigit.symm.trans hmem)
  have hkey : h.key = (h.name.toList ++ h.left) ++ (h.op.symbol ++ (h.right ++ h.number)) := by
    simp [key]
  rw [hkey]
  simp only [List.mem_append, not_or] at hblank
  exact findComparison?_append h.op
    (fun c hc => by simp [hname c hc, (hblank c hc).1.1.1])
    fun c hc => by simp [hnumber c hc, (hblank c hc).1.1.2]

/-! ## Evaluating a threshold -/

theorem literal?_name : Value.literal? h.name.toList = .ok none := by
  obtain ⟨c, rest, hname, hc⟩ := h.isName.head
  rw [hname]
  refine Value.literal?_of_isAlpha hc fun word hword htext => h.isName.free ?_
  rwa [String.toList_inj.1 (hname.trans htext)]

/-- A condition is no word. -/
theorem key_ne_word {word : String} (hword : ∀ c ∈ word.toList, Text.isWord c = true) :
    h.key ≠ word.toList := by
  obtain ⟨mark, -, sep, hsymbol⟩ := h.op.symbol_eq_cons
  have hmem : mark ∈ h.key := by simp [key, hsymbol]
  obtain ⟨-, hmark, -⟩ := of_mem_comparisonMarks mark
    (h.op.mem_comparisonMarks (hsymbol ▸ List.mem_cons_self))
  exact fun hkey => Bool.false_ne_true (hmark.symm.trans (hword mark (hkey ▸ hmem)))

theorem literal?_key : Value.literal? h.key = .ok none := by
  obtain ⟨c, rest, hname, hc⟩ := h.isName.head
  have hkey : h.key = c :: (rest ++ ((h.left ++ h.op.symbol ++ h.right) ++ h.number)) := by
    rw [key, hname, List.cons_append]
  rw [hkey]
  refine Value.literal?_of_isAlpha hc fun word hword => ?_
  rw [← hkey]
  exact key_ne_word (Value.isWord_of_mem_literalWords hword)

/-- The name of a field is no path, so it refers to the field or to itself. -/
theorem simpleValue_name (c : Context) :
    simpleValue c h.name.toList = .ok ((c.get? h.name).getD (.text h.name)) := by
  have hpath : pathValue? c h.name.toList = none := by
    have hpoint : '.' ∉ h.name.toList := fun hmem =>
      absurd (h.isName.word '.' hmem) (by decide)
    rw [pathValue?, Text.pieces_of_not_mem hpoint]
  rw [simpleValue, literal?_name]
  refine congrArg Except.ok ?_
  rw [reference, hpath, String.ofList_toList]
  cases c.get? h.name <;> rfl

/-- The integer is the same in every context. -/
theorem simpleValue_number :
    (∃ n, ∀ c, simpleValue c h.number = .ok (.int n)) ∨
      ∃ e, ∀ c, simpleValue c h.number = .error e := by
  rcases Value.literal?_integerText h.nonempty h.isDigits with ⟨n, hn⟩ | ⟨e, he⟩
  · exact .inl ⟨n, fun c => by rw [simpleValue, number, hn]; rfl⟩
  · exact .inr ⟨_, fun c => by rw [simpleValue, number, he]; rfl⟩

/-- All maps compare alike to an integer. -/
theorem decide_map (op : Comparison) (m m' : Fields Value) (n : Int) :
    op.decide (.map m) (.int n) = op.decide (.map m') (.int n) := by
  have hequal : ∀ m : Fields Value, Value.equal (.map m) (.int n) = .ok false :=
    fun m => Value.equal_map_left m rfl
  cases op <;> simp [Comparison.decide, hequal, Value.toNumber]

/-- **A threshold depends on its field**, of a map only on its being one, and on what stands under
the whole text. -/
theorem evaluate_eq (hkey : c.get? (String.ofList h.key) = d.get? (String.ofList h.key))
    (hname : c.get? h.name = d.get? h.name ∨
      ∃ m m', c.get? h.name = some (.map m) ∧ d.get? h.name = some (.map m')) :
    evaluate limits c h.text = evaluate limits d h.text := by
  have hblank := h.isBlanks
  have hleft : Text.trim (h.name.toList ++ h.left) = h.name.toList :=
    isTight_name.trim_append [] h.left (by simp) fun c hc => hblank c (by simp [hc])
  have hright : Text.trim (h.right ++ h.number) = h.number := by
    have htight : Text.IsTight h.number := isTight_number
    simpa using htight.trim_append h.right [] (fun c hc => hblank c (by simp [hc])) (by simp)
  have hwithin : ∀ depth, evaluateWithin limits c depth h.key = evaluateWithin limits d depth h.key
  | 0 => rfl
  | depth + 1 => by
    rw [evaluateWithin, evaluateWithin, findComparison?_key]
    dsimp only
    rw [hleft, hright, simpleValue_name, simpleValue_name, ok_bind, ok_bind]
    rcases simpleValue_number (h := h) with ⟨n, hn⟩ | ⟨e, he⟩
    · rw [hn, hn, ok_bind, ok_bind]
      rcases hname with heq | ⟨m, m', hm, hm'⟩
      · rw [heq]
      · rw [hm, hm', Option.getD_some, Option.getD_some, decide_map h.op m m' n]
    · rw [he, he, error_bind, error_bind]
  rw [evaluate, evaluate, trim_text, evaluateTrimmed, evaluateTrimmed, literal?_key, hkey, hwithin]

end Threshold

/-! ## What stands under a name -/

namespace Validation

/-- The names that have a meaning of their own in a check, beside `this`. -/
def fixedNames : List String :=
  ["previous", "triggerEvent", "entityId", "entityName", "fromState", "toState", "transitionId",
    "actor"]

/-- What stands under a name, for every record: the same, the record itself, or its field. -/
def Shows (known : Fields Value → Context) (name : String) : Prop :=
  (name ∈ fixedNames ∧ ∃ v, ∀ data, (known data).get? name = some v) ∨
    (name = "this" ∧ ∀ data, (known data).get? name = some (.map data)) ∨
    ∀ data : Fields Value, data.names.Nodup → (known data).get? name = data.get? name

variable {known : Fields Value → Context} {name : String}

theorem Shows.set (h : Shows known name) {fixed : String} (hfixed : fixed ∈ fixedNames)
    (v : Value) : Shows (fun data => Fields.set (known data) fixed v) name := by
  by_cases hname : name = fixed
  · subst hname
    exact .inl ⟨hfixed, v, fun data => Fields.get?_set_self _ _ _⟩
  · have hother : ∀ data, Fields.get? (Fields.set (known data) fixed v) name =
        (known data).get? name := fun data => Fields.get?_set_other _ _ hname
    simpa only [Shows, hother] using h

theorem shows_context (e : Entity) (previous : Option (Fields Value)) (event : Option String)
    (name : String) : Shows (fun data => context e (some data) previous event) name := by
  have hthis : Shows (fun data => (Fields.setAll [] data).set "this" (.map data)) name := by
    by_cases hname : name = "this"
    · subst hname
      exact .inr (.inl ⟨rfl, fun data => Fields.get?_set_self _ _ _⟩)
    · refine .inr (.inr fun data hnames => ?_)
      rw [Fields.get?_set_other _ _ hname, Fields.get?_setAll_nil hnames]
  have hnamed : ∀ {known : Fields Value → Context}, Shows known name →
      Shows (fun data => (((known data).set "triggerEvent" (.ofText? event)).set "entityId"
        (.text e.id)).set "entityName" (.text e.name)) name := fun h =>
    ((h.set (by decide) _).set (by decide) _).set (by decide) _
  cases previous with
  | none => exact hnamed hthis
  | some p => exact hnamed (hthis.set (by decide) (.map p))

theorem shows_transitionContext (e : Entity) (previous : Option (Fields Value))
    (event : Option String) (t : Transition) (actor : Option String) (name : String) :
    Shows (fun data => transitionContext (context e (some data) previous event) t actor) name :=
  ((((shows_context e previous event name).set (by decide) _).set (by decide) _).set (by decide)
    _).set (by decide) _

theorem isWord_of_mem_fixedNames {word : String} (hword : word ∈ "this" :: fixedNames) :
    ∀ c ∈ word.toList, Text.isWord c = true := by
  have hall : (("this" :: fixedNames).all fun word => word.toList.all Text.isWord) = true := by
    decide
  exact List.all_eq_true.1 (List.all_eq_true.1 hall word hword)

/-- Whether a threshold holds depends on its field and on what stands under the whole condition. -/
theorem holds_threshold {h : Threshold} {known : Fields Value → Context}
    (hshows : ∀ name, Shows known name) (limits : Limits) {data data' : Fields Value}
    (hnames : data.names.Nodup) (hnames' : data'.names.Nodup)
    (hfield : data.get? h.name = data'.get? h.name)
    (hwhole : data.get? (String.ofList h.key) = data'.get? (String.ofList h.key)) :
    holds limits (known data) h.text = holds limits (known data') h.text := by
  have hkey : (known data).get? (String.ofList h.key) =
      (known data').get? (String.ofList h.key) := by
    have hword : String.ofList h.key ∉ "this" :: fixedNames := fun hmem =>
      Threshold.key_ne_word (isWord_of_mem_fixedNames hmem) String.toList_ofList.symm
    rcases hshows (String.ofList h.key) with ⟨hfixed, -⟩ | ⟨hthis, -⟩ | hfields
    · exact absurd (List.mem_cons_of_mem _ hfixed) hword
    · exact absurd (hthis ▸ List.mem_cons_self) hword
    · rw [hfields data hnames, hfields data' hnames', hwhole]
  have hname : (known data).get? h.name = (known data').get? h.name ∨
      ∃ m m', (known data).get? h.name = some (.map m) ∧
        (known data').get? h.name = some (.map m') := by
    rcases hshows h.name with ⟨-, v, hv⟩ | ⟨-, hthis⟩ | hfields
    · exact .inl ((hv data).trans (hv data').symm)
    · exact .inr ⟨data, data', hthis data, hthis data'⟩
    · exact .inl (by rw [hfields data hnames, hfields data' hnames', hfield])
  rw [holds, holds, Threshold.evaluate_eq hkey hname]

/-- The issue of a condition that is not met. -/
def unmet (condition : String) : Issue :=
  { ruleId := none, propertyName := none
    message := s!"Transition condition not met: {condition}", messageKey := none
    level := .transition }

/-- The one condition of a transition is reported exactly if it does not hold. -/
theorem unmet_mem_iff {db : Database} {t : Tables} (ht : db.tables = some t) {entityId : String}
    {e : Entity} (he : findEntity db entityId = .ok e) (limits : Limits) (data : Fields Value)
    {u : Transition} {condition : String} (hu : u.conditions = some [condition])
    (actor : Option String) (previous : Option (Fields Value)) :
    ∃ issues, transitionIssues db limits entityId data u actor previous = .ok issues ∧
      (unmet condition ∈ issues ↔ holds limits (transitionContext
        (context e (some data) previous (some transitionEvent)) u actor) condition = false) := by
  rw [transitionIssues_eq ht, he, hu]
  refine ⟨_, rfl, ?_⟩
  -- the issue of a rule names the rule
  have hrules : ∀ {known : Context} {rules : List Rule}, unmet condition ∉ rules.filterMap
      (expressionIssue? limits known .transition "Transition validation failed") := by
    intro known rules hmem
    obtain ⟨rule, -, hissue⟩ := List.mem_filterMap.1 hmem
    cases expressionIssue?_ruleId hissue
  rw [List.mem_append, or_iff_left hrules, Option.getD_some, List.filterMap_cons,
    List.filterMap_nil, conditionIssue?]
  cases holds limits _ condition with
  | true => simp
  | false => simp [unmet]

end Validation

/-! ## The theorem -/

open Validation in
/-- **A threshold reads only the field that it names.**  The one condition of a transition compares
a field with an integer.  Two versions of a record that have the same under the name of the field,
and the same under the whole text of the condition, are both told that the condition is not met, or
neither is, whatever else they consist of. -/
theorem transitionIssues_threshold {db : Database} {entityId : String} {e : Entity}
    (he : findEntity db entityId = .ok e) (limits : Limits) {u : Transition} {h : Threshold}
    (hu : u.conditions = some [h.text]) {data data' : Fields Value} (hnames : data.names.Nodup)
    (hnames' : data'.names.Nodup) (hfield : data.get? h.name = data'.get? h.name)
    (hwhole : data.get? (String.ofList h.key) = data'.get? (String.ofList h.key))
    (actor : Option String) (previous : Option (Fields Value)) :
    ∃ issues issues', transitionIssues db limits entityId data u actor previous = .ok issues ∧
      transitionIssues db limits entityId data' u actor previous = .ok issues' ∧
      (unmet h.text ∈ issues ↔ unmet h.text ∈ issues') := by
  obtain ⟨t, ht⟩ := tables_of_findEntity he
  obtain ⟨issues, hissues, hmem⟩ := unmet_mem_iff ht he limits data hu actor previous
  obtain ⟨issues', hissues', hmem'⟩ := unmet_mem_iff ht he limits data' hu actor previous
  refine ⟨issues, issues', hissues, hissues', ?_⟩
  rw [hmem, hmem']
  rw [holds_threshold (shows_transitionContext e previous (some transitionEvent) u actor) limits
    hnames hnames' hfield hwhole]

namespace Invoice

/-- The condition `amount >= 5`. -/
def threshold : Threshold where
  name := "amount"
  op := .atLeast
  negative := false
  digits := ['5']
  left := [' ']
  right := [' ']
  before := []
  after := []
  isName := ⟨⟨'a', "mount".toList, by decide⟩, List.all_eq_true.1 (by decide), by decide⟩
  nonempty := by decide
  isDigits := List.all_eq_true.1 (by decide)
  isBlanks := List.all_eq_true.1 (by decide)

/-- The approval of an invoice, for which the amount must be large enough. -/
def approval : Transition :=
  { id := "approve", workflowId := "invoices", fromState := "DRAFT", toState := "APPROVED"
    actionLabel := none, labelKey := none, description := none, allowedRoles := none
    conditions := some [threshold.text], metadata := none }

/-- A database that knows of invoices. -/
def database : Database := { tables := some { entities := [entity] } }

/-- The issues of a check of the approval. -/
def issues (data : Fields Value) : Result (List Issue) :=
  Validation.transitionIssues database {} "invoice" data approval none none

/-- Whether a check of the approval reports that the condition is not met. -/
def reported (data : Fields Value) : Option Bool :=
  (issues data).toOption.map fun found => found.contains (Validation.unmet "amount >= 5")

end Invoice

open Validation in
/-- An invoice without an amount is not approved, with or without a note. -/
theorem transitionIssues_threshold_noted :
    Invoice.reported [("amount", .null)] = some true ∧
      ∃ issues issues', Invoice.issues [("amount", .null)] = .ok issues ∧
        Invoice.issues [("amount", .null), ("note", .text "x")] = .ok issues' ∧
        (unmet Invoice.threshold.text ∈ issues ↔ unmet Invoice.threshold.text ∈ issues') := by
  have hkey : String.ofList Invoice.threshold.key = "amount >= 5" := by decide +kernel
  have hentity : findEntity Invoice.database "invoice" = .ok Invoice.entity := rfl
  have hwhole : Fields.get? [("amount", Value.null)] (String.ofList Invoice.threshold.key) =
      Fields.get? [("amount", .null), ("note", .text "x")]
        (String.ofList Invoice.threshold.key) := by
    rw [hkey]
    rfl
  have hfield : Fields.get? [("amount", Value.null)] Invoice.threshold.name =
      Fields.get? [("amount", .null), ("note", .text "x")] Invoice.threshold.name := rfl
  have hcondition : Invoice.approval.conditions = some [Invoice.threshold.text] := rfl
  exact ⟨by decide +kernel, transitionIssues_threshold hentity {} hcondition (by decide) (by decide)
    hfield hwhole none none⟩

/-- A field whose name is the whole condition opens the gate that the amount keeps shut. -/
theorem transitionIssues_shadowed :
    Invoice.threshold.text = "amount >= 5" ∧
      Fields.get? [("amount", Value.null)] "amount" =
        Fields.get? [("amount", Value.null), ("amount >= 5", .bool true)] "amount" ∧
      Invoice.reported [("amount", .null)] = some true ∧
      Invoice.reported [("amount", .null), ("amount >= 5", .bool true)] = some false :=
  ⟨by decide +kernel, rfl, by decide +kernel, by decide +kernel⟩

end RecordRules
