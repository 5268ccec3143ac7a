import BuildFleet.Operator.Cluster
import BuildFleet.Operator.Templates
import BuildFleet.Operator.Wire

/-!
# A cluster that can be told to fail

A simulation is a cluster with calls that are to fail and a moment at which shutdown is
requested. It is a `Server`, so the operator's programs can be run against it. Calls reach
the cluster either directly or over HTTP; over HTTP the object is the one that the target of
the request leads to, the status of an object that is not there cannot be written, and a
failure is a status of the answer.
-/

namespace BuildFleet

/-- How calls reach the cluster. -/
inductive Transport where
  /-- As they are. -/
  | direct
  /-- As requests under the name of a field manager. -/
  | http (manager : String)
  deriving DecidableEq, Inhabited, Repr

/-- How calls of a kind are to fail. -/
structure Fault where
  /-- Which calls. -/
  kind : CallKind
  /-- How many of them. -/
  times : Nat := 1
  /-- The status of the answer. -/
  code : Nat
  /-- A failure of the client itself, which only a direct call can have. -/
  internal : Option String
  deriving DecidableEq, Inhabited, Repr

/-- The first fault for a call of the kind, and the faults that are left after the call. -/
def Fault.take? (kind : CallKind) : List Fault → Option (Fault × List Fault)
  | [] => none
  | f :: rest =>
    if f.kind = kind ∧ 0 < f.times then some (f, { f with times := f.times - 1 } :: rest)
    else (take? kind rest).map fun (g, others) => (g, f :: others)

/-- A cluster, what is to go wrong, and when shutdown is requested. -/
structure Simulation where
  /-- The cluster. -/
  cluster : Cluster := {}
  /-- How calls reach it. -/
  transport : Transport := .direct
  /-- The next call of each kind fails like the first of these for its kind. -/
  faults : List Fault := []
  /-- Whether shutdown was requested. -/
  stopping : Bool := false
  /-- With which of the next calls shutdown is requested; the first one is 1. -/
  stopAfter : Option Nat := none

namespace Simulation

/-- Counts a call towards the moment of shutdown, which is never before the next call. -/
def count (s : Simulation) : Simulation :=
  match s.stopAfter with
  | none => s
  | some n =>
    if n ≤ 1 then { s with stopping := true, stopAfter := none }
    else { s with stopAfter := some (n - 1) }

/-- How a call that is to fail is answered. -/
def fault (s : Simulation) (f : Fault) (c : Call) : Except Failure c.Reply :=
  match s.transport, f.internal with
  | .http _, _ => c.errorReply f.code
  | .direct, some what => .error (.internal what)
  | .direct, none => .error (.api f.code)

/-- What the client makes of a reply. -/
def deliver (s : Simulation) (c : Call) (reply : c.Reply) : Except Failure c.Reply :=
  match s.transport with
  | .direct => .ok reply
  | .http _ => (c.receivedReply? reply).elim (.error .client) .ok

/-- Answers a call about the object unless it is to fail. -/
def receive (key : ObjectKey) (c : Call) (s : Simulation) : Except Failure c.Reply × Simulation :=
  match Fault.take? c.kind s.faults with
  | some (f, faults) => (s.fault f c, { s with faults })
  | none =>
    if s.transport ≠ .direct ∧ ¬ s.cluster.hasTarget key c.kind then (c.errorReply 404, s)
    else
      let (reply, cluster) := Cluster.serveAt key c s.cluster
      (s.deliver c reply, { s with cluster })

/-- What is answered to a request for something that the server does not know: for a call that
reads, that there is no such object. -/
def unknown : (c : Call) → Except Failure c.Reply
  | .getPod _ _ => .ok none
  | .getTemplate _ _ => .ok none
  | c => c.errorReply 404

/-- Answers a call. Over HTTP the object is the one that the request leads to, and a call that
cannot be sent changes nothing. -/
def answer (c : Call) (s : Simulation) : Except Failure c.Reply × Simulation :=
  match s.transport with
  | .direct => s.count.receive c.key c
  | .http manager =>
    match c.request? manager with
    | none => (.error .client, s)
    | some r =>
      match r.route? with
      | some (kind, key) =>
        if kind = c.kind then s.count.receive key c else (unknown c, s.count)
      | none => (unknown c, s.count)

/-- The simulation as a server. -/
def server : Server Simulation := ⟨answer, Simulation.stopping⟩

/-- Runs one cycle of an instance; none if there is no such instance. -/
def reconcile? (s : Simulation) (index : Nat) (config : OperatorConfig) (now : Instant) :
    Option (Run Simulation Action) :=
  s.cluster.instances[index]?.map fun i => (i.reconcile config now).run server s

/-- Runs one cycle of a template; none if there is no such template. -/
def reconcileTemplate? (s : Simulation) (index : Nat) (now : Instant) :
    Option (Run Simulation Action) :=
  s.cluster.templates[index]?.map fun t => (t.reconcile now).run server s

/-- Makes calls fail once those fail that are to fail already. -/
def addFault (s : Simulation) (f : Fault) : Simulation := { s with faults := s.faults ++ [f] }

/-- Changes the cluster. -/
def edit (s : Simulation) (f : Cluster → Cluster) : Simulation := { s with cluster := f s.cluster }

end Simulation

namespace Cluster

/-- Stores a pod where its metadata says. -/
def putPod (s : Cluster) (pod : ApiPod) : Cluster :=
  { s with pods := Store.put s.pods ⟨pod.metadata.ns.getD "", pod.name⟩ pod }

/-- Replaces the status of a pod that is there. -/
def setPodStatus (s : Cluster) (key : ObjectKey) (status : Option Json) : Cluster :=
  { s with pods := s.pods.map fun e => if e.1 = key then (e.1, { e.2 with status }) else e }

/-- Puts a template in place of the first one of its namespace and name, or to the end. -/
def replaceTemplate (t : Template) : List Template → List Template
  | [] => [t]
  | o :: rest =>
    if o.ns == t.ns && o.name == t.name then t :: rest else o :: replaceTemplate t rest

/-- Stores a template in place of the one of its namespace and name. -/
def putTemplate (s : Cluster) (t : Template) : Cluster :=
  { s with templates := replaceTemplate t s.templates }

/-- Removes the templates of a namespace and name. -/
def deleteTemplate (s : Cluster) (ns name : String) : Cluster :=
  { s with templates := s.templates.filter fun t => !isAt t.metadata ns name }

/-- Puts an instance in the given place, or to the end if there is no such place. -/
def putInstance (s : Cluster) (index : Nat) (i : Instance) : Cluster :=
  { s with instances :=
      if index < s.instances.length then s.instances.set index i else s.instances ++ [i] }

/-- Replaces or removes the status of an instance. -/
def setInstanceStatus (s : Cluster) (index : Nat) (status : Option InstanceStatus) : Cluster :=
  { s with instances := s.instances.modify index fun i => { i with status } }

end Cluster

end BuildFleet
