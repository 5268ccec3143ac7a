import BuildFleet.Operator.Config
import BuildFleet.Operator.Program

/-!
# The cycle of an instance

Each cycle brings an instance nearer to exactly one pod:

1. the pods that its status refers to are looked up, and those that are gone are forgotten;
2. if there is none, the instance is checked and its pod is created; if there are several,
   all but the first are deleted;
3. if there is one, the status tells how its daemon is doing.

A cycle that succeeds ends by writing the status, and a cycle that fails does not write it.
The endpoint in the status stays only while surplus pods are deleted, because the pod that
is kept is the one it belongs to.
-/

namespace BuildFleet

/-- The namespace of an object that has to have one. -/
def namespaceOf (ns : Option String) : Program String :=
  match ns with
  | some ns => pure ns
  | none => .fail .missingNamespace

/-- The template that an instance names. -/
def resolveTemplate (ns name : String) : Program Template := do
  match ← Program.perform (.getTemplate ns name) with
  | some t => pure t
  | none => .fail (.templateNotFound ns name)

namespace Instance

/-- Checks an instance. One that names no template breaks a rule; one whose template is not
there cannot be checked. -/
def validate (i : Instance) : Program Report := do
  if i.spec.template.isEmpty then return { violations := [.noTemplate] }
  let ns ← namespaceOf i.ns
  return i.checkAgainst (← resolveTemplate ns i.spec.template)

/-- Looks up the template of an instance and builds its pod. -/
def buildPod (i : Instance) : Program Pod := do
  let ns ← namespaceOf i.ns
  let t ← resolveTemplate ns i.spec.template
  .ofExcept (BuildFleet.buildPod i t)

/-- The pod that an instance asks the API for. -/
def requestPod (i : Instance) : Program ApiPod := do
  let pod ← i.buildPod
  match pod.toApi? i.owner with
  | some api => pure api
  | none => .fail .serialization

end Instance

/-- Looks up the pods that are referred to, in order, and leaves out those that are gone. -/
def discoverPods : List ManagedRef → Program (List ApiPod)
  | [] => pure []
  | r :: rest => do
    let pod ← Program.perform (.getPod r.ns r.name)
    let pods ← discoverPods rest
    return pod.toList ++ pods

/-- Deletes the pods one by one. -/
def deletePods (ns : String) : List String → Program Unit
  | [] => pure ()
  | name :: rest => do
    Program.modify (.deletePod ns name)
    deletePods ns rest

/-- What a cycle came to, which pod the status is to refer to, and whether the endpoint stays. -/
structure Progress where
  /-- The outcome. -/
  outcome : Outcome
  /-- The pod that the instance has now. -/
  pod : Option String
  /-- Whether the endpoint stays as it was. -/
  keepEndpoint : Bool

/-- Checks the instance and creates its pod. An instance that breaks a rule gets none. -/
def createInstancePod (i : Instance) (ns : String) : Program Progress := do
  let report ← i.validate
  if report.isValid then
    let pod ← i.requestPod
    let created ← Program.modify (.createPod ns pod)
    return ⟨.applying, some created.name, false⟩
  else
    return ⟨.failed .invalidSpec report.summary, none, false⟩

/-- Brings the instance nearer to exactly one pod. -/
def convergePods (i : Instance) (ns : String) (backoff : Nat) (pods : List ApiPod) :
    Program Progress :=
  match PodPlan.ofNames (pods.map ApiPod.name) with
  | .create => createInstancePod i ns
  | .prune keep delete => do
    deletePods ns delete
    return ⟨.applying, some keep, true⟩
  | .use name =>
    match pods.find? fun p => p.name == name with
    | some p => pure ⟨(ObservedPod.ofPod p).evaluate backoff, some name, false⟩
    | none => .fail (.internal "planned pod missing from discovery")

/-- The status after a cycle. References to other objects stay as they were. -/
def InstanceStatus.next (previous : InstanceStatus) (ns : String) (p : Progress) (now : Instant) :
    InstanceStatus :=
  let endpoint := match p.outcome with
    | .done endpoint => endpoint
    | .applying => if p.keepEndpoint then previous.endpoint else ""
    | _ => ""
  let refs := (previous.refs.filter fun r => r.kind != .pod)
    ++ (p.pod.map fun name => ManagedRef.mk .pod ns name).toList
  let deployed := p.outcome.condition Condition.deployed now
  let ready := p.outcome.condition Condition.ready now
  ({ previous with refs, endpoint }.withCondition deployed).withCondition ready

/-- One cycle of an instance. -/
def Instance.reconcile (i : Instance) (config : OperatorConfig) (now : Instant) :
    Program Action := do
  let ns ← namespaceOf i.ns
  let previous := i.status.getD {}
  let pods ← discoverPods (previous.refsOf .pod)
  let progress ← convergePods i ns config.notReadyBackoff pods
  Program.modify (.patchStatus ns i.name (previous.next ns progress now))
  return progress.outcome.action

end BuildFleet
