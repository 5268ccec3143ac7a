import BuildFleet.Kubernetes.ApiPod
import BuildFleet.Network.Address
import BuildFleet.Status.Condition

/-!
# How a daemon is doing

What is looked at in the pod of an instance (`ObservedPod`), what follows from it
(`Outcome`), and how many pods there should be (`PodPlan`). An outcome says what conditions
to state and when to look again.
-/

namespace BuildFleet

/-- Why a condition holds or not. -/
inductive Reason where
  | applyingChanges | podFailed | podNotRunning | containerNotReady | available | invalidSpec
  deriving DecidableEq, Inhabited, Repr

/-- The word for a reason. -/
def Reason.text : Reason → String
  | applyingChanges => "ApplyingChanges"
  | podFailed => "PodFailed"
  | podNotRunning => "PodNotRunning"
  | containerNotReady => "ContainerNotReady"
  | available => "Available"
  | invalidSpec => "InvalidSpec"

/-- What to do about the pods that were found. -/
inductive PodPlan where
  /-- There is none, so one is created. -/
  | create
  /-- There is one. -/
  | use (name : String)
  /-- There are several, of which the first is kept. -/
  | prune (keep : String) (delete : List String)
  deriving DecidableEq, Repr

/-- How to get to exactly one pod from those that were found, in the order in which they were. -/
def PodPlan.ofNames : List String → PodPlan
  | [] => create
  | [only] => use only
  | first :: others => prune first others

/-- The parts of a pod that say how the daemon is doing. -/
structure ObservedPod where
  /-- Its name. -/
  name : String
  /-- How far it has come. -/
  phase : String
  /-- Why it is in that phase, for programs. -/
  reason : String
  /-- Why it is in that phase, for people. -/
  message : String
  /-- Its address, once it has one. -/
  podIp : Option String
  /-- Which containers are ready. -/
  containersReady : List (String × Bool)
  /-- The first port of its first container. -/
  port : Option Int
  deriving DecidableEq, Inhabited, Repr

namespace ObservedPod

/-- The first item of the list under a name. -/
def firstOf? (j : Json) (name : String) : Option Json :=
  ((j.member? name).bind Json.items?).bind List.head?

/-- A text of the pod's status; empty if there is none. -/
def statusText (p : ApiPod) (name : String) : String :=
  ((p.status.bind fun s => s.member? name).bind Json.text?).getD ""

/-- Name and readiness of a container. -/
def readiness? (j : Json) : Option (String × Bool) := do
  return (← (j.member? "name").bind Json.text?, ← (j.member? "ready").bind Json.bool?)

/-- What there is to see in a pod. -/
def ofPod (p : ApiPod) : ObservedPod where
  name := p.name
  phase := statusText p "phase"
  reason := statusText p "reason"
  message := statusText p "message"
  podIp :=
    let ip := statusText p "podIP"
    if ip.isEmpty then none else some ip
  containersReady :=
    (((p.status.bind fun s => s.member? "containerStatuses").bind Json.items?).getD []).filterMap
      readiness?
  port := do
    let port ← firstOf? (← firstOf? (← p.spec) "containers") "ports"
    ((← port.member? "containerPort").int32?)

end ObservedPod

/-- What a cycle came to. -/
inductive Outcome where
  /-- Pods were created or deleted. -/
  | applying
  /-- The pod is on its way; it is looked at again after so many seconds. -/
  | requeue (reason : Reason) (message : String) (after : Nat)
  /-- The pod failed or the instance was refused, and neither gets better on its own. -/
  | failed (reason : Reason) (message : String)
  /-- The daemon serves. -/
  | done (endpoint : String)
  deriving DecidableEq, Inhabited, Repr

/-- When a cycle is run again. -/
inductive Action where
  /-- When something changes. -/
  | awaitChange
  /-- After so many seconds. -/
  | requeueAfter (seconds : Nat)
  deriving DecidableEq, Inhabited, Repr

namespace Outcome

/-- When to look again. -/
def action : Outcome → Action
  | applying => .requeueAfter 0
  | requeue _ _ after => .requeueAfter after
  | failed _ _ => .awaitChange
  | done _ => .awaitChange

/-- Whether the daemon serves. -/
def serves : Outcome → Bool
  | done _ => true
  | _ => false

/-- Why, for programs. -/
def reason : Outcome → Reason
  | applying => .applyingChanges
  | requeue reason _ _ => reason
  | failed reason _ => reason
  | done _ => .available

/-- Why, for people. -/
def message : Outcome → String
  | applying => "Applying pod changes"
  | requeue _ message _ => message
  | failed _ message => message
  | done _ => ""

/-- The condition of a type that states the outcome. -/
def condition (o : Outcome) (type : String) (now : Instant) : Condition where
  type := type
  status := .ofBool o.serves
  reason := o.reason.text
  message := o.message
  lastTransitionTime := now

end Outcome

/-- How the daemon in the pod is doing. A pod that is still coming up is looked at again
after the backoff. -/
def ObservedPod.evaluate (p : ObservedPod) (backoff : Nat) : Outcome :=
  if p.phase = "Failed" then
    let cause :=
      if !p.message.isEmpty then p.message
      else if !p.reason.isEmpty then p.reason
      else "unknown failure"
    .failed .podFailed ("Buildkit pod " ++ p.name ++ " has failed: " ++ cause)
  else if p.phase ≠ "Running" then
    .requeue .podNotRunning "Buildkit pod not running" backoff
  else
    match p.containersReady.find? fun c => !c.2 with
    | some (container, _) =>
      .requeue .containerNotReady ("Buildkit pod container " ++ container ++ " not ready") backoff
    | none =>
      match p.podIp with
      | none => .requeue .podNotRunning "Buildkit pod has no IP yet" backoff
      | some ip =>
        match p.port with
        | none => .failed .podFailed ("Buildkit pod " ++ p.name ++ " exposes no container port")
        | some port => .done (endpointText ip port)

end BuildFleet
