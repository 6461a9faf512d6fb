import RecordRules.Store.Database

/-!
# Stored definitions

Entities, rules, measures and workflows are inserted once and never changed.  Every one is found by
its key; rules are also found by what they are about, in the order of their names.
-/

set_option autoImplicit false

namespace RecordRules

/-- Whether an integer has more bits than the store can hold. -/
def isWide (n : Int) : Bool := n < -(twoTo 63 : Int) || (twoTo 63 : Int) ≤ n

/-- A map in the form in which the store keeps it. -/
def documentFields (fields : Fields Value) : Except Refusal (Fields Value) :=
  Value.documentEntries fields

/-! ## Entities -/

/-- A property in the form in which the store keeps it. -/
def Property.stored (p : Property) : Except Refusal { q : Property // q.name = p.name } := do
  return ⟨{ p with metadata := ← documentFields p.metadata }, rfl⟩

/-- Properties in the form in which the store keeps them. -/
def Property.storedAll : (ps : List Property) →
    Except Refusal { qs : List Property // qs.map Property.name = ps.map Property.name }
  | [] => .ok ⟨[], rfl⟩
  | p :: rest => do
    let q ← p.stored
    let qs ← storedAll rest
    return ⟨q.1 :: qs.1, by simp [q.2, qs.2]⟩

/-- An entity in the form in which the store keeps it. -/
def Entity.stored (e : Entity) : Except Refusal Entity := do
  let ps ← Property.storedAll e.properties
  return { e with properties := ps.1, unique := by rw [ps.2]; exact e.unique }

namespace Database

/-- The entity of an id. -/
def getEntity (db : Database) (id : String) : Result (Option Entity) :=
  db.read "get entity" .entities fun t => .ok (t.entities.find? fun e => e.id == id)

/-- Adds an entity. -/
def saveEntity (db : Database) (e : Entity) : Result Database :=
  db.write "save entity" .entities fun t => do
    if t.entities.any fun other => other.id == e.id then .error (Table.entities.taken ["entity_id"])
    else return { t with entities := t.entities ++ [← e.stored] }

/-! ## Rules -/

/-- The order in which rules are made to work: by name, then by id. -/
def rulePrecedes (a b : Rule) : Bool :=
  decide (a.name < b.name) || (a.name == b.name && decide (a.id ≤ b.id))

/-- The rules in force that a test selects, in order. -/
def activeRules (t : Tables) (selects : Rule → Bool) : List Rule :=
  (t.rules.filterMap fun s => if s.active && selects s.rule then some s.rule else none).mergeSort
    rulePrecedes

/-- The rules in force about a field. -/
def getFieldRules (db : Database) (entityId propertyName : String) : Result (List Rule) :=
  db.read "get field rules" .rules fun t =>
    .ok (activeRules t fun r =>
      r.entityId == entityId && r.propertyName == some propertyName && r.scope == .field)

/-- The rules in force of a scope. -/
def getRulesByScope (db : Database) (entityId : String) (scope : Scope) : Result (List Rule) :=
  db.read "get rules by scope" .rules fun t =>
    .ok (activeRules t fun r => r.entityId == entityId && r.scope == scope)

/-- Adds a rule. -/
def saveRule (db : Database) (r : Rule) (active : Bool) : Result Database :=
  match documentFields r.metadata with
  | .error refusal => .error (refusal.toFailure "save rule" Table.rules.label)
  | .ok metadata =>
    db.write "save rule" .rules fun t =>
      if t.rules.any fun other => other.rule.id == r.id then .error (Table.rules.taken ["rule_id"])
      else .ok { t with rules := t.rules ++ [⟨{ r with metadata }, active⟩] }

/-! ## Measures -/

/-- The measure of an identifier and version. -/
def getMeasure (db : Database) (identifier : String) (version : Int) : Result (Option Measure) :=
  db.read "get measure" .measures fun t =>
    if isWide version then .error .integerTooWide
    else .ok (t.measures.find? fun m => m.identifier == identifier && m.version == version)

/-- The measure with the greater version, the first one if they are equal. -/
def laterVersion (a b : Measure) : Measure := if a.version < b.version then b else a

/-- The measure of an identifier in its latest version. -/
def getLatestMeasure (db : Database) (identifier : String) : Result (Option Measure) :=
  db.read "get latest measure" .measures fun t =>
    match t.measures.filter fun m => m.identifier == identifier with
    | [] => .ok none
    | m :: rest => .ok (some (rest.foldl laterVersion m))

end Database

/-- A parameter in the form in which the store keeps it. -/
def Parameter.stored (p : Parameter) : Except Refusal { q : Parameter // q.name = p.name } := do
  return ⟨{ p with default := ← p.default.plain.document }, rfl⟩

/-- Parameters in the form in which the store keeps them. -/
def Parameter.storedAll : (ps : List Parameter) →
    Except Refusal { qs : List Parameter // qs.map Parameter.name = ps.map Parameter.name }
  | [] => .ok ⟨[], rfl⟩
  | p :: rest => do
    let q ← p.stored
    let qs ← storedAll rest
    return ⟨q.1 :: qs.1, by simp [q.2, qs.2]⟩

/-- A measure in the form in which the store keeps it, under an id. -/
def Measure.stored (m : Measure) (id : String) : Except Refusal Measure := do
  let ps ← Parameter.storedAll m.parameters
  return { m with id := some id, parameters := ps.1, unique := by rw [ps.2]; exact m.unique }

/-! ## Ids -/

/-- The `n`-th id that the store makes up.  Its last part has twelve digits, and more once they no
longer suffice, so no two of these ids are the same. -/
def generatedId (n : Nat) : String :=
  "00000000-0000-4000-8000-" ++ String.ofList (Text.hexDigits (12 + n / 0x1000000000000) n)

/-- The first id made up by the store that is not taken. -/
def freshId (taken : List String) : String :=
  (((List.range (taken.length + 1)).map generatedId).find? fun id => !taken.contains id).getD ""

/-- The id given, or a fresh one if it is missing or empty. -/
def idOr (given : Option String) (taken : List String) : String :=
  match given with
  | some id => if id.isEmpty then freshId taken else id
  | none => freshId taken

namespace Database

/-- Adds a version of a measure. -/
def saveMeasure (db : Database) (m : Measure) : Result Database :=
  match m.stored "" with
  | .error refusal => .error (refusal.toFailure "save measure" Table.measures.label)
  | .ok measure =>
    db.write "save measure" .measures fun t =>
      let id := idOr m.id (t.measures.filterMap Measure.id)
      if isWide m.version then .error .integerTooWide
      else if t.measures.any fun other =>
          other.identifier == m.identifier && other.version == m.version then
        .error (Table.measures.taken ["identifier", "version"])
      else if t.measures.any fun other => other.id == some id then
        .error (Table.measures.taken ["measure_id"])
      else .ok { t with measures := t.measures ++ [{ measure with id := some id }] }

end Database

/-! ## Workflows -/

/-- A transition in the form in which the store keeps it, as part of a workflow. -/
def Transition.stored (t : Transition) (workflowId : String) :
    Except Refusal { u : Transition // u.fromState = t.fromState ∧ u.toState = t.toState } := do
  let metadata ← match t.metadata with
    | some fields => some <$> documentFields fields
    | none => pure none
  return ⟨{ t with workflowId, metadata }, rfl, rfl⟩

/-- Transitions in the form in which the store keeps them. -/
def Transition.storedAll (workflowId : String) : (ts : List Transition) →
    Except Refusal { us : List Transition //
      ∀ u ∈ us, ∃ t ∈ ts, u.fromState = t.fromState ∧ u.toState = t.toState }
  | [] => .ok ⟨[], by simp⟩
  | t :: rest => do
    let u ← t.stored workflowId
    let us ← storedAll workflowId rest
    return ⟨u.1 :: us.1, by
      intro v hv
      rcases List.mem_cons.1 hv with rfl | hv
      · exact ⟨t, by simp, u.2⟩
      · obtain ⟨s, hs, h⟩ := us.2 v hv
        exact ⟨s, by simp [hs], h⟩⟩

/-- States stay closed if the ends of the transitions are the same. -/
theorem ClosedStates.mono {initial : String} {states : List WorkflowState}
    {ts us : List Transition} (closed : ClosedStates initial states ts)
    (h : ∀ u ∈ us, ∃ t ∈ ts, u.fromState = t.fromState ∧ u.toState = t.toState) :
    ClosedStates initial states us := by
  rcases closed with none | ⟨first, ends⟩
  · exact Or.inl none
  · refine Or.inr ⟨first, fun u hu => ?_⟩
    obtain ⟨t, ht, hfrom, hto⟩ := h u hu
    rw [hfrom, hto]
    exact ends t ht

/-- A workflow in the form in which the store keeps it: it owns its transitions, which stand in the
order of their ids. -/
def Workflow.stored (w : Workflow) : Except Refusal Workflow := do
  let us ← Transition.storedAll w.id w.transitions
  return { w with
    transitions := us.1.mergeSort fun a b => decide (a.id ≤ b.id)
    closed := w.closed.mono fun u hu => us.2 u (List.mem_mergeSort.1 hu) }

/-- The first of some texts that occurs again later. -/
def repeated? : List String → Option String
  | [] => none
  | name :: rest => if rest.contains name then some name else repeated? rest

namespace Database

/-- The workflow of an id. -/
def getWorkflow (db : Database) (id : String) : Result (Option Workflow) :=
  db.read "get workflow" .workflows fun t => .ok (t.workflows.find? fun w => w.id == id)

/-- All transitions of all workflows. -/
def allTransitions (t : Tables) : List Transition := t.workflows.flatMap Workflow.transitions

/-- The transition of an id. -/
def getTransition (db : Database) (id : String) : Result (Option Transition) :=
  db.read "get transition" .transitions fun t =>
    .ok ((allTransitions t).find? fun transition => transition.id == id)

/-- Adds a workflow with its states and transitions. -/
def saveWorkflow (db : Database) (w : Workflow) : Result Database :=
  db.write "save workflow" .workflows fun t => do
    if t.workflows.any fun other => other.id == w.id then
      .error (Table.workflows.taken ["workflow_id"])
    else if (repeated? (w.states.map WorkflowState.name)).isSome then
      .error (Table.states.taken ["workflow_id", "name"])
    else
      let stored ← w.stored
      let taken := (allTransitions t).map Transition.id
      if (repeated? (taken ++ w.transitions.map Transition.id)).isSome then
        .error (Table.transitions.taken ["transition_id"])
      else return { t with workflows := t.workflows ++ [stored] }

end Database
end RecordRules
