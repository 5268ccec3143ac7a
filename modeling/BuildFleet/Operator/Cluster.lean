import BuildFleet.Operator.Program

/-!
# What the API server holds

A cluster is the objects that the operator reads and writes. `Cluster.serve` says what each
call does when it goes through: reading changes nothing, deleting what is not there
succeeds, a pod that is created without a name gets a fresh one, and writing a status
replaces that of every object of the name.
-/

namespace BuildFleet

/-- Objects by where they are found. -/
abbrev Store (α : Type) := List (ObjectKey × α)

namespace Store

variable {α : Type}

/-- The object under a key. -/
def get? (s : Store α) (key : ObjectKey) : Option α := (s.find? fun e => e.1 == key).map (·.2)

/-- The store without the object under a key. -/
def erase (s : Store α) (key : ObjectKey) : Store α := s.filter fun e => e.1 != key

/-- The store with an object under a key. -/
def put (s : Store α) (key : ObjectKey) (v : α) : Store α := erase s key ++ [(key, v)]

end Store

/-- The objects of the API server. -/
structure Cluster where
  /-- The instances. -/
  instances : List Instance := []
  /-- The templates. -/
  templates : List Template := []
  /-- The pods. -/
  pods : Store ApiPod := []
  /-- The ConfigMaps. -/
  configMaps : Store ConfigMap := []
  /-- How many pods have been given a name. -/
  named : Nat := 0

namespace Cluster

/-- Whether an object with this metadata is the one of the namespace and name. -/
def isAt (m : ObjectMeta) (ns name : String) : Bool := m.ns == some ns && m.displayName == name

/-- The template of a namespace and name. -/
def template? (s : Cluster) (ns name : String) : Option Template :=
  s.templates.find? fun t => isAt t.metadata ns name

/-- The pod with a name; one without gets the start of a name and a number that no pod had
before. -/
def nameNext (s : Cluster) (pod : ApiPod) : ApiPod × Nat :=
  match pod.metadata.name with
  | some _ => (pod, s.named)
  | none =>
    let name := pod.metadata.generateName.getD "" ++ toString (s.named + 1)
    ({ pod with metadata := { pod.metadata with name := some name } }, s.named + 1)

/-- Stores a new pod. -/
def createPod (s : Cluster) (ns : String) (pod : ApiPod) : ApiPod × Cluster :=
  let (pod, named) := s.nameNext pod
  (pod, { s with pods := Store.put s.pods ⟨ns, pod.name⟩ pod, named })

/-- Replaces the status of the instances of a namespace and name. -/
def setStatus (s : Cluster) (ns name : String) (status : InstanceStatus) : Cluster :=
  { s with instances := s.instances.map fun i =>
      if isAt i.metadata ns name then { i with status := some status } else i }

/-- Replaces the status of the templates of a namespace and name. -/
def setTemplateStatus (s : Cluster) (ns name : String) (status : TemplateStatus) : Cluster :=
  { s with templates := s.templates.map fun t =>
      if isAt t.metadata ns name then { t with status := some status } else t }

/-- Whether the object is there that a call writes the status of. -/
def hasTarget (s : Cluster) (key : ObjectKey) : CallKind → Bool
  | .patchStatus => s.instances.any fun i => isAt i.metadata key.ns key.name
  | .patchTemplateStatus => s.templates.any fun t => isAt t.metadata key.ns key.name
  | _ => true

/-- What a call gives back and does when the server takes it to be about the given object. A
ConfigMap is stored where its metadata says. -/
def serveAt (key : ObjectKey) : (c : Call) → Cluster → c.Reply × Cluster
  | .getPod _ _, s => (Store.get? s.pods key, s)
  | .createPod _ pod, s => s.createPod key.ns pod
  | .deletePod _ _, s => ((), { s with pods := Store.erase s.pods key })
  | .patchStatus _ _ status, s => ((), s.setStatus key.ns key.name status)
  | .getTemplate _ _, s => (s.template? key.ns key.name, s)
  | .applyConfigMap c, s => ((), { s with configMaps := Store.put s.configMaps ⟨c.ns, c.name⟩ c })
  | .deleteConfigMap _ _, s => ((), { s with configMaps := Store.erase s.configMaps key })
  | .patchTemplateStatus _ _ status, s => ((), s.setTemplateStatus key.ns key.name status)

/-- What a call gives back and does. -/
def serve (c : Call) (s : Cluster) : c.Reply × Cluster := serveAt c.key c s

end Cluster

end BuildFleet
