import BuildFleet.Kubernetes.ObjectMeta
import BuildFleet.Resources.Basic
import BuildFleet.Status.Condition

/-!
# Daemon instances

An instance is a request for one running Buildkit daemon, built from a template in the same
namespace. Its specification is fixed once it is created; its status reports how far the
daemon has come, and the endpoint once it can serve. Every part of a status is always
written, so that a status that is merged into a stored one leaves nothing of it.
-/

namespace BuildFleet

/-- The group and version of the API that instances and templates belong to. -/
def apiVersion : String := "buildkit.dev/v1alpha1"

/-- What an instance asks for. -/
structure InstanceSpec where
  /-- The name of its template. -/
  template : String
  /-- Resources in place of the template's; limits above those of the template do not count. -/
  resources : Option Requirements := none
  /-- A ceiling that lowers the template's. -/
  maximum : ResourceList := .empty
  /-- Labels of the pod. -/
  labels : Dict String := .empty
  /-- Annotations of the pod. -/
  annotations : Dict String := .empty
  deriving DecidableEq, Inhabited

/-- How an instance is doing. -/
structure InstanceStatus where
  /-- What holds of it. -/
  conditions : List Condition := []
  /-- The objects managed for it. -/
  refs : List ManagedRef := []
  /-- Where the daemon serves; empty unless it is ready. -/
  endpoint : String := ""
  deriving DecidableEq, Inhabited

/-- A request for one daemon. -/
structure Instance where
  /-- Its metadata. -/
  metadata : ObjectMeta := {}
  /-- What it asks for. -/
  spec : InstanceSpec
  /-- How it is doing. -/
  status : Option InstanceStatus := none
  deriving Inhabited

namespace InstanceSpec

/-- Reads a specification. -/
def ofJson? (j : Json) : Option InstanceSpec := do
  let m ← Members.ofClosed? ["template", "resources", "maximum", "labels", "annotations"] 1 j
  return {
    template := ← m.required? "template" Json.text?
    resources := ← m.optional? "resources" Requirements.ofJson?
    maximum := ← m.getD? "maximum" (Json.dictOf? Quantity.ofJson?) .empty
    labels := ← m.getD? "labels" (Json.dictOf? Json.text?) .empty
    annotations := ← m.getD? "annotations" (Json.dictOf? Json.text?) .empty }

/-- Writes a specification. -/
def toJson (s : InstanceSpec) : Json :=
  Json.ofFields (Members.always "template" (.str s.template)
    ++ Members.option "resources" Requirements.toJson s.resources
    ++ Members.dict "maximum" Quantity.toJson s.maximum
    ++ Members.dict "labels" Json.str s.labels
    ++ Members.dict "annotations" Json.str s.annotations)

end InstanceSpec

namespace InstanceStatus

/-- Sets one condition. -/
def withCondition (s : InstanceStatus) (c : Condition) : InstanceStatus :=
  { s with conditions := Condition.set s.conditions c }

/-- The references of one kind. -/
def refsOf (s : InstanceStatus) (kind : ManagedKind) : List ManagedRef :=
  s.refs.filter fun r => r.kind == kind

/-- Reads a status. -/
def ofJson? (j : Json) : Option InstanceStatus := do
  let m ← Members.ofClosed? ["conditions", "resourceRefs", "endpoint"] 0 j
  return {
    conditions := ← m.getD? "conditions" (Json.listOf? Condition.ofJson?) []
    refs := ← m.getD? "resourceRefs" (Json.listOf? ManagedRef.ofJson?) []
    endpoint := ← m.getD? "endpoint" Json.text? "" }

/-- Writes a status, all parts of it. -/
def toJson (s : InstanceStatus) : Json :=
  Json.ofFields [("conditions", .arr (s.conditions.map Condition.toJson)),
    ("resourceRefs", .arr (s.refs.map ManagedRef.toJson)), ("endpoint", .str s.endpoint)]

end InstanceStatus

namespace Instance

/-- The kind of instances in the API. -/
def kind : String := "Buildkit"

/-- What the instance is called. -/
def name (i : Instance) : String := i.metadata.displayName

/-- Its namespace, if it has one. -/
def ns (i : Instance) : Option String := i.metadata.ns

/-- The instance as the owner of objects; it needs a name and an identifier for that. -/
def owner (i : Instance) : Option OwnerReference := do
  return ⟨apiVersion, kind, ← i.metadata.name, ← i.metadata.uid, some true, none⟩

/-- Reads an instance. -/
def ofJson? (j : Json) : Option Instance := do
  let m ← Members.ofClosed? ["metadata", "spec", "status"] 3 j
  return {
    metadata := ← m.required? "metadata" ObjectMeta.ofJson?
    spec := ← m.required? "spec" InstanceSpec.ofJson?
    status := ← m.optional? "status" InstanceStatus.ofJson? }

/-- Writes an instance. -/
def toJson (i : Instance) : Json :=
  Json.ofFields (Members.always "apiVersion" (.str apiVersion)
    ++ Members.always "kind" (.str kind)
    ++ Members.always "metadata" i.metadata.toJson
    ++ Members.always "spec" i.spec.toJson
    ++ Members.option "status" InstanceStatus.toJson i.status)

end Instance

end BuildFleet
