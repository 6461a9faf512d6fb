import RecordRules.Store.Records

/-!
# Sample data

A small example to start with: invoices with a calculated total and an approval workflow, a measure
for discounts, one invoice, and a manager who may approve it.
-/

set_option autoImplicit false

namespace RecordRules
namespace Sample

/-- A state without a label. -/
def state (name : String) (isInitial isFinal : Bool) : WorkflowState :=
  { name, label := none, isInitial, isFinal }

/-- The id of the workflow. -/
def workflowId : String := "invoice-approval"

/-- A draft is submitted once it has a total. -/
def submit : Transition :=
  { id := "submit", workflowId, fromState := "DRAFT", toState := "SUBMITTED"
    actionLabel := some "Submit", labelKey := none, description := none, allowedRoles := none
    conditions := some ["total > 0"], metadata := none }

/-- What is submitted is approved by an approver. -/
def approve : Transition :=
  { id := "approve", workflowId, fromState := "SUBMITTED", toState := "APPROVED"
    actionLabel := some "Approve", labelKey := none, description := none
    allowedRoles := some ["approver"], conditions := none, metadata := none }

/-- The approval of invoices. -/
def workflow : Workflow :=
  { id := workflowId
    name := "Invoice approval"
    initialState := "DRAFT"
    states := [state "DRAFT" true false, state "SUBMITTED" false false, state "APPROVED" false true]
    transitions := [submit, approve]
    closed := by decide }

/-- A property without a label. -/
def property (name : String) (type : PropertyType) : Property :=
  { name, type, label := none, required := false, readOnly := false, denormalize := false
    calculation := none, metadata := [] }

/-- Invoices. -/
def invoice : Entity :=
  { id := "invoice"
    name := "Invoice"
    properties :=
      [{ property "customer" .string with required := true },
       property "quantity" .number,
       property "price" .number,
       { property "total" .calculated with
          readOnly := true, calculation := some "quantity * price" }]
    workflowId := some workflowId
    unique := by decide }

/-- A rule about invoices. -/
def rule (id name : String) (scope : Scope) (ruleType : RuleType) : Rule :=
  { id, entityId := "invoice", propertyName := none, name, scope, type := ruleType
    expression := none, errorMessage := none, errorMessageKey := none, triggerEvents := []
    metadata := [] }

/-- The rules about invoices. -/
def rules : List Rule :=
  [{ rule "invoice-customer-required" "customer_required" .field .required with
      propertyName := some "customer", errorMessage := some "Customer is required" },
   { rule "invoice-quantity-range" "quantity_range" .field .range with
      propertyName := some "quantity", metadata := [("min", .int 1), ("max", .int 1000)] },
   { rule "invoice-approval-price" "approval_price" .transition .expression with
      expression := some "price >= 1"
      errorMessage := some "Invoices under 1.00 cannot be approved"
      metadata := [("transitionId", .text "approve")] }]

/-- The price after a discount of a fifth, or of another rate. -/
def discount : Measure :=
  { id := none
    identifier := "discounted-total"
    version := 1
    name := some "Discounted total"
    description := none
    parameters := [⟨"amount", .null, none⟩, ⟨"rate", .float 0.2, none⟩]
    expression := "amount * rate"
    returnType := .number
    unique := by decide }

/-- An invoice that is still a draft. -/
def record : NewRecord :=
  { entityId := "invoice"
    data := [("customer", .text "ACME"), ("quantity", .int 3), ("price", .float 12.5),
      ("total", .float 37.5)]
    id := some "invoice-1"
    actor := some "seed" }

/-- The steps that load the sample. -/
def steps (now : Moment) : List (Database → Result Database) :=
  [fun db => db.saveWorkflow workflow, fun db => db.saveEntity invoice] ++
  rules.map (fun r (db : Database) => db.saveRule r true) ++
  [fun db => db.saveMeasure discount, fun db => Prod.snd <$> db.createRecord now record,
   fun db => db.assignRole "manager" "approver"]

/-- Carries out steps up to the first that fails; what was done before stays. -/
def runSteps : List (Database → Result Database) → Database → Result Unit × Database
  | [], db => (.ok (), db)
  | step :: rest, db =>
    match step db with
    | .ok changed => runSteps rest changed
    | .error e => (.error e, db)

/-- Loads the sample. -/
def load (db : Database) (now : Moment) : Result Unit × Database := runSteps (steps now) db

end Sample
end RecordRules
