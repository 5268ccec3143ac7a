import BuildFleet.Operator.Instances

/-!
# The cycle of a template

Each cycle publishes the ConfigMaps that the template yields, deletes those that it does not
yield any more, and writes down what there is. A template that breaks a rule is reported as
not ready, and nothing is published or deleted for it.
-/

namespace BuildFleet

/-- Publishes or deletes the artifact of a kind, and gives back a reference to it if there
is one. -/
def publishArtifact (ns name : String) (owner : Option OwnerReference) (t : Template)
    (kind : ArtifactKind) : Program (Option ManagedRef) :=
  match Artifact.derive? t kind with
  | some a => do
    Program.modify (.applyConfigMap (a.toConfigMap owner))
    return some ⟨.configMap, ns, a.name⟩
  | none => do
    Program.modify (.deleteConfigMap ns (kind.artifactName name))
    return none

/-- Publishes or deletes the artifacts of the kinds in order, and gives back references to
those that there are. -/
def publishArtifacts (ns name : String) (owner : Option OwnerReference) (t : Template) :
    List ArtifactKind → Program (List ManagedRef)
  | [] => pure []
  | kind :: rest => do
    let r ← publishArtifact ns name owner t kind
    let refs ← publishArtifacts ns name owner t rest
    return r.toList ++ refs

/-- The condition that a template is ready or not. -/
def Template.readiness (failure : Option Failure) (now : Instant) : Condition where
  type := Condition.ready
  status := .ofBool failure.isNone
  reason := (if failure.isNone then Reason.available else Reason.invalidSpec).text
  message := match failure with
    | some e => e.message
    | none => ""
  lastTransitionTime := now

/-- The status after a cycle; without new references the old ones stay. -/
def TemplateStatus.next (previous : TemplateStatus) (generation : Option Int)
    (refs : Option (List ManagedRef)) (ready : Condition) : TemplateStatus :=
  { previous with
    refs := refs.getD previous.refs
    observedGeneration := generation }.withCondition ready

/-- One cycle of a template. -/
def Template.reconcile (t : Template) (now : Instant) : Program Action := do
  let ns ← namespaceOf t.ns
  let previous := t.status.getD {}
  let write (refs : Option (List ManagedRef)) (failure : Option Failure) : Program Action := do
    let status := previous.next t.metadata.generation refs (Template.readiness failure now)
    Program.modify (.patchTemplateStatus ns t.name status)
    return .awaitChange
  match t.withDefaults.check.result with
  | .error e => write none (some e)
  | .ok _ =>
    let refs ← publishArtifacts ns t.name t.owner t.withDefaults ArtifactKind.all
    write (some refs) none

end BuildFleet
