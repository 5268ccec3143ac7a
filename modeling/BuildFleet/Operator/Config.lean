import BuildFleet.Operator.Outcome
import BuildFleet.Template.Artifact

/-!
# Settings of the operator

What can be set when the operator is started, with what holds otherwise.
-/

namespace BuildFleet

/-- Settings of the operator. -/
structure OperatorConfig where
  /-- The only namespace that is watched; all of them if there is none. -/
  watchNamespace : Option String := none
  /-- The name under which the operator writes. -/
  fieldManager : String := operatorName
  /-- Seconds before a pod that is coming up is looked at again. -/
  notReadyBackoff : Nat := 5
  /-- Seconds before a cycle that failed is tried again. -/
  errorBackoff : Nat := 5
  /-- Seconds after which the API server ends a watch. -/
  watchTimeout : Nat := 25
  /-- Whether logs are JSON. -/
  jsonLogs : Bool := false
  deriving DecidableEq, Inhabited, Repr

/-- When a cycle that failed is tried again. -/
def OperatorConfig.retry (c : OperatorConfig) : Action := .requeueAfter c.errorBackoff

end BuildFleet
