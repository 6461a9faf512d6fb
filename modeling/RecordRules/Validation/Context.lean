import RecordRules.Schema.Entity
import RecordRules.Schema.Workflow

/-!
# What rules and conditions can refer to

Rules see the fields of a record under their own names, and the circumstances of the check under
fixed names.  Where a field has one of the fixed names, the circumstance wins.
-/

set_option autoImplicit false

namespace RecordRules
namespace Validation

/-- The names that a rule can refer to: the fields of the record, the record as `this`, the record
before the change as `previous`, the event and the entity. -/
def context (entity : Entity) (data previous : Option (Fields Value)) (event : Option String) :
    Expression.Context :=
  let fields : Expression.Context := match data with
    | some d => (Fields.setAll [] d).set "this" (.map d)
    | none => []
  let known := match previous with
    | some p => fields.set "previous" (.map p)
    | none => fields
  ((known.set "triggerEvent" (.ofText? event)).set "entityId" (.text entity.id)).set
    "entityName" (.text entity.name)

/-- The names that a condition of a transition can refer to: those of a rule, and the transition
and its actor. -/
def transitionContext (context : Expression.Context) (t : Transition) (actor : Option String) :
    Expression.Context :=
  (((context.set "fromState" (.text t.fromState)).set "toState" (.text t.toState)).set
    "transitionId" (.text t.id)).set "actor" (.ofText? actor)

end Validation
end RecordRules
