import BuildFleet.Kubernetes.ObjectMeta
import BuildFleet.Pod.Json

/-!
# Pods as the API server has them

A pod of the API is kept as JSON that conforms to the pod format, with its metadata apart.
`Pod.toApi?` turns a pod that was built into one: a member that the format does not know is
dropped, and one of another form than the format asks for is refused.
-/

namespace BuildFleet

/-- A pod of the API. -/
structure ApiPod where
  /-- Its metadata. -/
  metadata : ObjectMeta
  /-- Its contents. -/
  spec : Option Json
  /-- What is known about it. -/
  status : Option Json
  deriving Inhabited

namespace ApiPod

/-- A type field, which may be left out but has to be right. -/
def typed? (m : Members) (name value : String) : Option Unit :=
  match Entries.get? name m with
  | none => some ()
  | some j => if j.text? = some value then some () else none

/-- Reads a pod. -/
def ofJson? (j : Json) : Option ApiPod := do
  let m ← Members.ofOpen? j
  typed? m "apiVersion" "v1"
  typed? m "kind" "Pod"
  return {
    metadata := ((← m.optional? "metadata" ObjectMeta.ofJson?).getD {})
    spec := ← m.optional? "spec" PodFormat.podSpec.conform?
    status := ← m.optional? "status" PodFormat.podStatus.conform? }

/-- Writes a pod. -/
def toJson (p : ApiPod) : Json :=
  Json.ofFields (Members.always "apiVersion" (.str "v1")
    ++ Members.always "kind" (.str "Pod")
    ++ Members.always "metadata" p.metadata.toJson
    ++ Members.option "spec" id p.spec
    ++ Members.option "status" id p.status)

/-- What the pod is called. -/
def name (p : ApiPod) : String := p.metadata.displayName

end ApiPod

/-- The pod of the API that a built pod asks for, with the owner as its only one if there is
one. None if some member does not have the form that the API asks for. -/
def Pod.toApi? (p : Pod) (owner : Option OwnerReference) : Option ApiPod :=
  (ApiPod.ofJson? p.toJson).map fun api =>
    match owner with
    | none => api
    | some o => { api with metadata := { api.metadata with ownerReferences := some [o] } }

end BuildFleet
