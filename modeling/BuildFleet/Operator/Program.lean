import BuildFleet.Blueprint
import BuildFleet.Kubernetes.ApiPod

/-!
# Programs of API calls

What the operator does in one cycle is a program: a tree that makes a call, goes on with the
reply, and ends in a result. What the API server does with a call is not part of the
program. It is left to a `Server`, which may also let calls fail, and which knows whether
shutdown was requested. `Program.run` lets a server answer a program and lists the calls
that were made; a call that fails ends the program with its failure.

A program asks before every modifying call whether shutdown was requested (`guarded`), so a
stopping operator starts nothing new.
-/

namespace BuildFleet

/-- Where an object is found. -/
structure ObjectKey where
  /-- Its namespace. -/
  ns : String
  /-- Its name. -/
  name : String
  deriving DecidableEq, Inhabited, Repr

/-- The kinds of calls. -/
inductive CallKind where
  | getPod | createPod | deletePod | patchStatus | getTemplate | applyConfigMap | deleteConfigMap
  | patchTemplateStatus
  deriving DecidableEq, Inhabited, Repr

/-- A call to the API server. -/
inductive Call where
  /-- Reads a pod. -/
  | getPod (ns name : String)
  /-- Creates a pod. -/
  | createPod (ns : String) (pod : ApiPod)
  /-- Deletes a pod, if it is there. -/
  | deletePod (ns name : String)
  /-- Replaces the status of an instance. -/
  | patchStatus (ns name : String) (status : InstanceStatus)
  /-- Reads a template. -/
  | getTemplate (ns name : String)
  /-- Creates a ConfigMap or makes it like this. -/
  | applyConfigMap (configMap : ConfigMap)
  /-- Deletes a ConfigMap, if it is there. -/
  | deleteConfigMap (ns name : String)
  /-- Replaces the status of a template. -/
  | patchTemplateStatus (ns name : String) (status : TemplateStatus)

namespace Call

/-- What a call that succeeds gives back: the pod or template that was read, if there is
one, and the pod that was created, with its name. -/
abbrev Reply : Call → Type
  | getPod _ _ => Option ApiPod
  | createPod _ _ => ApiPod
  | getTemplate _ _ => Option Template
  | _ => Unit

/-- The kind of a call. -/
def kind : Call → CallKind
  | getPod _ _ => .getPod
  | createPod _ _ => .createPod
  | deletePod _ _ => .deletePod
  | patchStatus _ _ _ => .patchStatus
  | getTemplate _ _ => .getTemplate
  | applyConfigMap _ => .applyConfigMap
  | deleteConfigMap _ _ => .deleteConfigMap
  | patchTemplateStatus _ _ _ => .patchTemplateStatus

/-- The object that a call is about. -/
def key : Call → ObjectKey
  | getPod ns name => ⟨ns, name⟩
  | createPod ns pod => ⟨ns, pod.name⟩
  | deletePod ns name => ⟨ns, name⟩
  | patchStatus ns name _ => ⟨ns, name⟩
  | getTemplate ns name => ⟨ns, name⟩
  | applyConfigMap c => ⟨c.ns, c.name⟩
  | deleteConfigMap ns name => ⟨ns, name⟩
  | patchTemplateStatus ns name _ => ⟨ns, name⟩

/-- Whether the call only reads. -/
def isRead : Call → Bool
  | getPod _ _ => true
  | getTemplate _ _ => true
  | _ => false

end Call

/-- What the operator does in one cycle. -/
inductive Program (α : Type) where
  /-- Ends. -/
  | finish (result : Except Failure α)
  /-- Goes on unless shutdown was requested. -/
  | guarded (next : Program α)
  /-- Makes a call and goes on with the reply. -/
  | call (c : Call) (next : c.Reply → Program α)

namespace Program

variable {α β σ : Type}

/-- One program after another. -/
def bind : Program α → (α → Program β) → Program β
  | finish (.ok a), f => f a
  | finish (.error e), _ => finish (.error e)
  | guarded next, f => guarded (next.bind f)
  | call c next, f => call c fun r => (next r).bind f

instance : Monad Program where
  pure a := finish (.ok a)
  bind := bind

/-- Ends with a failure. -/
def fail (e : Failure) : Program α := finish (.error e)

/-- A result that was computed without any call. -/
def ofExcept (r : Except Failure α) : Program α := finish r

/-- Makes one call. -/
def perform (c : Call) : Program c.Reply := call c fun r => finish (.ok r)

/-- Makes one modifying call, unless shutdown was requested. -/
def modify (c : Call) : Program c.Reply := guarded (perform c)

end Program

/-- An API server with its clients. -/
structure Server (σ : Type) where
  /-- Answers a call. -/
  answer : (c : Call) → σ → Except Failure c.Reply × σ
  /-- Whether shutdown was requested. -/
  stopping : σ → Bool

/-- What became of a program. -/
structure Run (σ α : Type) where
  /-- Its result. -/
  result : Except Failure α
  /-- The calls it made, in order. -/
  calls : List Call
  /-- The state it left. -/
  state : σ

/-- Lets a server answer a program. -/
def Program.run {σ α : Type} (server : Server σ) : Program α → σ → Run σ α
  | finish result, s => ⟨result, [], s⟩
  | guarded next, s =>
    if server.stopping s then ⟨.error .cancelled, [], s⟩ else next.run server s
  | call c next, s =>
    match server.answer c s with
    | (.error e, s) => ⟨.error e, [c], s⟩
    | (.ok reply, s) =>
      let rest := (next reply).run server s
      { rest with calls := c :: rest.calls }

end BuildFleet
