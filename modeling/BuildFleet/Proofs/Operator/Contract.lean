import BuildFleet.Operator.Instances
import BuildFleet.Proofs.Operator.Execution
import Mathlib.Logic.Function.Basic

/-!
# What is relied on of the API server

What the operator does about an instance can be told from two things: the pods that were created
for it, and its stored status (`Holdings`). `Keeps` is what a server has to do about them; whatever
else it holds, when it lets calls fail, and when shutdown is requested is left open.

Where pods are looked up that may be gone, and surplus ones are deleted, more is relied on: that
each call that succeeds tells and does what it is for (`Call.Effect`), whereas one that fails may
have been carried out or not (`Serves`).

> `Serves.keeps`: a server that also changes nothing where a call fails keeps the first contract.

What a look-up tells, of pods and of templates, is what there is (`Shows`); and writing a status
changes neither.

Of ConfigMaps it is relied on that one that is applied is stored as it was given, and that one that
is deleted is gone (`StoresConfigMaps`).
-/

namespace BuildFleet

/-- The object that is referred to. -/
def ManagedRef.key (r : ManagedRef) : ObjectKey := ⟨r.ns, r.name⟩

/-- What there is for an instance. -/
structure Holdings where
  /-- The pods that were created for it. -/
  pods : List ObjectKey
  /-- Its stored status. -/
  status : Option InstanceStatus

namespace Holdings

/-- The references to pods in the stored status. -/
def podRefs (h : Holdings) : List ManagedRef := (h.status.getD {}).refsOf .pod

/-- With one more pod. -/
def withPod (h : Holdings) (key : ObjectKey) : Holdings := { h with pods := h.pods ++ [key] }

/-- With another status. -/
def withStatus (h : Holdings) (st : InstanceStatus) : Holdings := { h with status := some st }

@[simp] theorem pods_withStatus (h : Holdings) (st : InstanceStatus) :
    (h.withStatus st).pods = h.pods := rfl

@[simp] theorem podRefs_withStatus (h : Holdings) (st : InstanceStatus) :
    (h.withStatus st).podRefs = st.refsOf .pod := rfl

@[simp] theorem pods_withPod (h : Holdings) (key : ObjectKey) :
    (h.withPod key).pods = h.pods ++ [key] := rfl

@[simp] theorem podRefs_withPod (h : Holdings) (key : ObjectKey) :
    (h.withPod key).podRefs = h.podRefs := rfl

/-- Without some pods. -/
def without (h : Holdings) (keys : List ObjectKey) : Holdings :=
  { h with pods := h.pods.filter fun key => key ∉ keys }

@[simp] theorem podRefs_without (h : Holdings) (keys : List ObjectKey) :
    (h.without keys).podRefs = h.podRefs := rfl

/-- A pod is left if it was there and is not taken away. -/
@[simp] theorem mem_pods_without {h : Holdings} {keys : List ObjectKey} {key : ObjectKey} :
    key ∈ (h.without keys).pods ↔ key ∈ h.pods ∧ key ∉ keys := by
  show key ∈ h.pods.filter _ ↔ _
  rw [List.mem_filter, decide_eq_true_iff]

/-- Taking no pods away changes nothing. -/
@[simp] theorem without_nil (h : Holdings) : h.without [] = h := by
  have hall : h.pods.filter (fun key => key ∉ ([] : List ObjectKey)) = h.pods :=
    List.filter_eq_self.mpr fun _ _ => decide_eq_true List.not_mem_nil
  unfold without
  rw [hall]

/-- Pods can be taken away in two steps or in one. -/
theorem without_without (h : Holdings) (keys more : List ObjectKey) :
    (h.without keys).without more = h.without (keys ++ more) := by
  have hboth : (h.pods.filter fun key => key ∉ keys).filter (fun key => key ∉ more)
      = h.pods.filter fun key => key ∉ keys ++ more := by
    rw [List.filter_filter]
    refine List.filter_congr ?_
    intro key _
    rw [← Bool.decide_and, decide_eq_decide, List.mem_append, not_or]
    exact And.comm
  unfold without
  rw [hboth]

end Holdings

/-- One cycle of an instance as it is stored. -/
def runCycle {σ : Type} (server : Server σ) (view : σ → Holdings) (i : Instance)
    (config : OperatorConfig) (now : Instant) (s : σ) : Run σ Action :=
  ({ i with status := (view s).status }.reconcile config now).run server s

/-- The server keeps the pods and the status of the instance as the operator expects. -/
structure Keeps {σ : Type} (server : Server σ) (view : σ → Holdings) (instanceKey : ObjectKey) :
    Prop where
  /-- A call that fails changes nothing. -/
  failed : ∀ c s e, (server.answer c s).1 = .error e → view (server.answer c s).2 = view s
  /-- Reading changes nothing. -/
  read : ∀ c s, c.isRead = true → view (server.answer c s).2 = view s
  /-- A pod that is there is found. -/
  found : ∀ ns name s reply, ⟨ns, name⟩ ∈ (view s).pods →
    (server.answer (.getPod ns name) s).1 = .ok reply → ∃ p : ApiPod, reply = some p ∧ p.name = name
  /-- A pod is stored under a fresh name. -/
  created : ∀ ns pod s p, (server.answer (.createPod ns pod) s).1 = .ok p →
    (⟨ns, p.name⟩ : ObjectKey) ∉ (view s).pods
      ∧ view (server.answer (.createPod ns pod) s).2 = (view s).withPod ⟨ns, p.name⟩
  /-- A status is stored as it was sent. -/
  recorded : ∀ st s reply,
    (server.answer (.patchStatus instanceKey.ns instanceKey.name st) s).1 = .ok reply →
    view (server.answer (.patchStatus instanceKey.ns instanceKey.name st) s).2
      = (view s).withStatus st

/-- What a call tells and does about the instance when it is carried out: of a pod that is looked
up, whether it is there; a pod is created under a fresh name; and a pod is gone once it is
deleted. -/
def Call.Effect (instanceKey : ObjectKey) : (c : Call) → c.Reply → Holdings → Holdings → Prop
  | .getPod ns name, pod, h, h' =>
    h' = h ∧ pod.map ApiPod.name = if ⟨ns, name⟩ ∈ h.pods then some name else none
  | .createPod ns _, pod, h, h' => ⟨ns, pod.name⟩ ∉ h.pods ∧ h' = h.withPod ⟨ns, pod.name⟩
  | .deletePod ns name, _, h, h' => h' = h.without [⟨ns, name⟩]
  | .patchStatus ns name st, _, h, h' => ⟨ns, name⟩ = instanceKey → h' = h.withStatus st
  | _, _, h, h' => h' = h

/-- Looking something up changes nothing. -/
theorem Call.Effect.of_isRead {instanceKey : ObjectKey} {c : Call} {reply : c.Reply}
    {h h' : Holdings} (heffect : c.Effect instanceKey reply h h') (hread : c.isRead = true) :
    h' = h := by
  cases c with
  | getPod ns name => exact heffect.1
  | getTemplate ns name => exact heffect
  | _ => exact nomatch hread

/-- The server carries out the calls that succeed. Of one that fails it is not known. -/
structure Serves {σ : Type} (server : Server σ) (view : σ → Holdings) (instanceKey : ObjectKey) :
    Prop where
  /-- A call that succeeds is carried out. -/
  done : ∀ c s reply, (server.answer c s).1 = .ok reply →
    c.Effect instanceKey reply (view s) (view (server.answer c s).2)
  /-- A call that fails is carried out or changes nothing. -/
  failed : ∀ c s e, (server.answer c s).1 = .error e → view (server.answer c s).2 = view s
    ∨ ∃ reply, c.Effect instanceKey reply (view s) (view (server.answer c s).2)

/-- Where calls that fail change nothing, what there is for the instance is kept as expected. -/
theorem Serves.keeps {σ : Type} {server : Server σ} {view : σ → Holdings} {instanceKey : ObjectKey}
    (hs : Serves server view instanceKey)
    (hfailed : ∀ c s e, (server.answer c s).1 = .error e → view (server.answer c s).2 = view s) :
    Keeps server view instanceKey where
  failed := hfailed
  read := by
    intro c s hread
    cases hanswer : (server.answer c s).1 with
    | error e => exact hfailed c s e hanswer
    | ok reply => exact (hs.done c s reply hanswer).of_isRead hread
  found := by
    intro ns name s reply hin hreply
    have hname := (hs.done (.getPod ns name) s reply hreply).2
    rw [if_pos hin] at hname
    obtain ⟨p, hp, hpname⟩ := Option.map_eq_some_iff.mp hname
    exact ⟨p, hp, hpname⟩
  created := fun ns pod s p hp => hs.done (.createPod ns pod) s p hp
  recorded := fun st s reply hreply =>
    hs.done (.patchStatus instanceKey.ns instanceKey.name st) s reply hreply rfl

/-! ## Look-ups -/

/-- What there is to look up. -/
structure Lookups where
  /-- The pods. -/
  pod : ObjectKey → Option ApiPod
  /-- The templates. -/
  template : ObjectKey → Option Template

/-- What a call gives back that looks something up. -/
def Lookups.reply? (l : Lookups) : (c : Call) → Option c.Reply
  | .getPod ns name => some (l.pod ⟨ns, name⟩)
  | .getTemplate ns name => some (l.template ⟨ns, name⟩)
  | _ => none

/-- The server tells what there is, and keeps it when a status is written. -/
structure Shows {σ : Type} (server : Server σ) (seen : σ → Lookups) : Prop where
  /-- A look-up that succeeds tells what there is. -/
  told : ∀ c s reply, c.isRead = true → (server.answer c s).1 = .ok reply →
    (seen s).reply? c = some reply
  /-- A look-up changes nothing. -/
  read : ∀ c s, c.isRead = true → seen (server.answer c s).2 = seen s
  /-- Writing the status of an instance changes neither pods nor templates. -/
  written : ∀ ns name st s, seen (server.answer (.patchStatus ns name st) s).2 = seen s
  /-- A pod has the name it is found under. -/
  named : ∀ s ns name p, (seen s).pod ⟨ns, name⟩ = some p → p.name = name

/-! ## ConfigMaps -/

/-- The ConfigMaps that there are. -/
abbrev ConfigMaps := ObjectKey → Option ConfigMap

/-- The ConfigMaps after a call was carried out. -/
def Call.onConfigMaps : Call → ConfigMaps → ConfigMaps
  | .applyConfigMap c, maps => Function.update maps ⟨c.ns, c.name⟩ (some c)
  | .deleteConfigMap ns name, maps => Function.update maps ⟨ns, name⟩ none
  | _, maps => maps

/-- The call leaves the ConfigMap under the key alone. -/
def Call.Spares (key : ObjectKey) (c : Call) : Prop := ∀ maps, c.onConfigMaps maps key = maps key

/-- The server carries out the calls that succeed. Of one that fails it is not known. -/
structure StoresConfigMaps {σ : Type} (server : Server σ) (maps : σ → ConfigMaps) : Prop where
  /-- A call that succeeds is carried out. -/
  done : ∀ c s reply, (server.answer c s).1 = .ok reply →
    maps (server.answer c s).2 = c.onConfigMaps (maps s)
  /-- A call that fails is carried out or changes nothing. -/
  failed : ∀ c s e, (server.answer c s).1 = .error e → maps (server.answer c s).2 = maps s
    ∨ maps (server.answer c s).2 = c.onConfigMaps (maps s)

/-- A ConfigMap that a call leaves alone stays as it was, whether or not the call succeeds. -/
theorem StoresConfigMaps.spared {σ : Type} {server : Server σ} {maps : σ → ConfigMaps}
    (hs : StoresConfigMaps server maps) {key : ObjectKey} {c : Call} (hc : c.Spares key) (s : σ) :
    maps (server.answer c s).2 key = maps s key := by
  cases hanswer : (server.answer c s).1 with
  | ok reply => rw [hs.done c s reply hanswer, hc]
  | error e =>
    rcases hs.failed c s e hanswer with heq | heq
    · rw [heq]
    · rw [heq, hc]

end BuildFleet
