import BuildFleet.Proofs.Operator.Endpoint
import BuildFleet.Proofs.Operator.Phases
import BuildFleet.Proofs.Status.Conditions

/-!
# What a status states after a cycle

A status is written from what a cycle came to and from the status before it, which may be anything:
it may lack conditions or state one of them twice, state what the operator knows nothing about, and
refer to all kinds of objects. What is written is of one piece all the same (`Coherent`): the two
conditions of an instance are there once each and say the same, the endpoint goes with them, and
whatever belongs to others is passed on.

> `Instance.reconcile_coherent`: a cycle that succeeds writes such a status, whatever the server
> answers.
-/

namespace BuildFleet

open Program (Ensures)

/-- Whether the condition is one that a cycle does not set. -/
def Condition.isForeign (c : Condition) : Bool := c.type != deployed && c.type != ready

/-- The two conditions of the operator are not foreign. -/
theorem Condition.isForeign_of_own {c : Condition} (h : c.type = deployed ∨ c.type = ready) :
    c.isForeign = false := by
  unfold isForeign
  rcases h with h | h
  · rw [h]
    rfl
  · rw [h]
    rfl

namespace InstanceStatus

/-- The parts of a status that is written after the given outcome agree with it and with each
other, and with the status before. The pods are those that the cycle found; if they are several, it
prunes them. -/
structure Coherent (previous : InstanceStatus) (ns : String) (pods : List ApiPod)
    (outcome : Outcome) (st : InstanceStatus) : Prop where
  /-- There is one condition of each type, and both say the same. -/
  conditions : ∃ d r, Condition.ofType Condition.deployed st.conditions = [d]
    ∧ Condition.ofType Condition.ready st.conditions = [r]
    ∧ d.status = r.status ∧ d.reason = r.reason ∧ d.message = r.message
    ∧ d.status ≠ .unknown ∧ (d.status = .yes ↔ ∃ endpoint, outcome = .done endpoint)
  /-- A daemon that serves is published, at the endpoint of the one pod. -/
  served : ∀ endpoint, outcome = .done endpoint → st.endpoint = endpoint
    ∧ (∃ pod, pods = [pod] ∧ (ObservedPod.ofPod pod).endpoint? = some endpoint)
    ∧ ∃ authority, endpoint = "tcp://" ++ authority
  /-- Otherwise nothing is published, unless pods are pruned. -/
  unserved : (∀ endpoint, outcome ≠ .done endpoint) →
    st.endpoint = if 1 < pods.length then previous.endpoint else ""
  /-- Other conditions stay, in order. -/
  foreign : st.conditions.filter Condition.isForeign
    = previous.conditions.filter Condition.isForeign
  /-- References to other objects stay, in order, and at most one to a pod comes after them. -/
  refs : ∃ pod : Option String, st.refs = (previous.refs.filter fun r => r.kind != .pod)
    ++ (pod.map fun name => ManagedRef.mk .pod ns name).toList

end InstanceStatus

/-! ## What converging comes to -/

/-- What converging came to goes with the pods that were found. -/
structure Progress.Suits (pods : List ApiPod) (p : Progress) : Prop where
  /-- The endpoint stays only while several pods are pruned. -/
  keeps : p.keepEndpoint = decide (1 < pods.length)
  /-- While it stays, changes are being made. -/
  applying : p.keepEndpoint = true → p.outcome = .applying
  /-- A daemon serves in a single pod, at its endpoint. -/
  served : ∀ endpoint, p.outcome = .done endpoint →
    ∃ pod, pods = [pod] ∧ (ObservedPod.ofPod pod).endpoint? = some endpoint

/-- Creating a pod makes progress that suits an instance without pods. -/
theorem createInstancePod_suits {σ : Type} (server : Server σ) (i : Instance) (ns : String) :
    (createInstancePod i ns).Ensures server (fun _ => True) (fun p _ => p.Suits [])
      (fun _ _ => True) := by
  have hunserved : ∀ {outcome : Outcome} {pod : Option String},
      (∀ endpoint, outcome ≠ .done endpoint) → (Progress.mk outcome pod false).Suits [] :=
    fun hnot => ⟨rfl, fun hkeep => absurd hkeep Bool.false_ne_true,
      fun endpoint hdone => absurd hdone (hnot endpoint)⟩
  have hany : ∀ {α : Type} (p : Program α), p.Ensures server (fun _ => True)
      (fun _ _ => True) (fun _ _ => True) := by
    intro α p s _
    split
    · trivial
    · trivial
  unfold createInstancePod
  refine (hany i.validate).bind ?_
  intro report
  split
  · refine (hany i.requestPod).bind ?_
    intro pod
    refine (hany (Program.modify (.createPod ns pod))).bind ?_
    intro created
    exact Program.ensures_pure fun _ _ => hunserved fun _ => Outcome.noConfusion
  · exact Program.ensures_pure fun _ _ => hunserved fun _ => Outcome.noConfusion

/-- What is made of the pods that were found suits them, whatever the server answers. -/
theorem convergePods_suits {σ : Type} (server : Server σ) (i : Instance) (ns : String)
    (backoff : Nat) : ∀ pods : List ApiPod, (convergePods i ns backoff pods).Ensures server
      (fun _ => True) (fun p _ => p.Suits pods) (fun _ _ => True)
  | [] => createInstancePod_suits server i ns
  | [pod] => by
    rw [convergePods_singleton]
    refine Program.ensures_pure ?_
    rintro - -
    exact ⟨rfl, fun hkeep => absurd hkeep Bool.false_ne_true,
      fun endpoint hdone => ⟨pod, rfl, ObservedPod.evaluate_done hdone⟩⟩
  | keep :: pod :: pods => by
    have hdelete : (deletePods ns ((pod :: pods).map ApiPod.name)).Ensures server
        (fun _ => True) (fun _ _ => True) (fun _ _ => True) := by
      intro s _
      split
      · trivial
      · trivial
    show (deletePods ns ((pod :: pods).map ApiPod.name) >>= fun _ => pure _).Ensures _ _ _ _
    refine hdelete.bind ?_
    rintro -
    refine Program.ensures_pure ?_
    rintro - -
    have hseveral : 1 < (keep :: pod :: pods).length := by
      rw [List.length_cons, List.length_cons]
      omega
    exact ⟨(decide_eq_true hseveral).symm, fun _ => rfl, fun endpoint hdone => nomatch hdone⟩

/-! ## What is written -/

/-- An endpoint begins with its scheme. -/
theorem exists_endpointText (host : String) (port : Int) :
    ∃ authority, endpointText host port = "tcp://" ++ authority := by
  unfold endpointText
  rw [String.append_assoc, String.append_assoc]
  exact ⟨_, rfl⟩

namespace InstanceStatus

variable (previous : InstanceStatus) (ns : String) (p : Progress) (now : Instant)

/-- The next conditions are the previous ones with those of the outcome set. -/
theorem conditions_next : (previous.next ns p now).conditions
    = Condition.set (Condition.set previous.conditions (p.outcome.condition Condition.deployed now))
      (p.outcome.condition Condition.ready now) := rfl

/-- There is one condition of deployment, and it is the outcome's. -/
theorem ofType_deployed_next : ∃ earlier,
    Condition.ofType Condition.deployed (previous.next ns p now).conditions
      = [(p.outcome.condition Condition.deployed now).following earlier] := by
  have hne : Condition.ready ≠ Condition.deployed := by decide
  refine ⟨previous.conditions, ?_⟩
  rw [conditions_next, Condition.ofType_set_of_ne hne]
  exact Condition.ofType_set_self (p.outcome.condition Condition.deployed now) _

/-- There is one condition of readiness, and it is the outcome's. -/
theorem ofType_ready_next : ∃ earlier,
    Condition.ofType Condition.ready (previous.next ns p now).conditions
      = [(p.outcome.condition Condition.ready now).following earlier] :=
  ⟨_, Condition.ofType_set_self (p.outcome.condition Condition.ready now) _⟩

/-- Conditions of other types stay as they were. -/
theorem foreign_next : (previous.next ns p now).conditions.filter Condition.isForeign
    = previous.conditions.filter Condition.isForeign := by
  rw [conditions_next, Condition.filter_set fun e he => Condition.isForeign_of_own (Or.inr he),
    Condition.filter_set fun e he => Condition.isForeign_of_own (Or.inl he)]

/-- What is published while no daemon serves. -/
theorem endpoint_next_of_not_done {p : Progress} (hnot : ∀ endpoint, p.outcome ≠ .done endpoint)
    (happlying : p.keepEndpoint = true → p.outcome = .applying) :
    (previous.next ns p now).endpoint = if p.keepEndpoint then previous.endpoint else "" := by
  obtain ⟨outcome, pod, keepEndpoint⟩ := p
  cases outcome with
  | done endpoint => exact absurd rfl (hnot endpoint)
  | applying => rfl
  | requeue reason message after =>
    cases keepEndpoint with
    | true => exact nomatch happlying rfl
    | false => rfl
  | failed reason message =>
    cases keepEndpoint with
    | true => exact nomatch happlying rfl
    | false => rfl

/-- A status that follows from what converging came to is of one piece. -/
theorem coherent_next {pods : List ApiPod} {p : Progress} (hsuits : p.Suits pods) :
    Coherent previous ns pods p.outcome (previous.next ns p now) where
  conditions := by
    obtain ⟨earlier, hd⟩ := previous.ofType_deployed_next ns p now
    obtain ⟨earlier', hr⟩ := previous.ofType_ready_next ns p now
    refine ⟨_, _, hd, hr, ?_⟩
    rw [Condition.following_status, Condition.following_status, Condition.following_reason,
      Condition.following_reason, Condition.following_message, Condition.following_message]
    refine ⟨rfl, rfl, rfl, ?_⟩
    show ConditionStatus.ofBool p.outcome.serves ≠ .unknown
      ∧ (ConditionStatus.ofBool p.outcome.serves = .yes ↔ ∃ endpoint, p.outcome = .done endpoint)
    cases p.outcome with
    | done endpoint => exact ⟨ConditionStatus.noConfusion, iff_of_true rfl ⟨endpoint, rfl⟩⟩
    | _ =>
      exact ⟨ConditionStatus.noConfusion,
        iff_of_false ConditionStatus.noConfusion fun ⟨_, hdone⟩ => nomatch hdone⟩
  served := by
    intro endpoint hdone
    obtain ⟨pod, hpods, hendpoint⟩ := hsuits.served endpoint hdone
    refine ⟨?_, ⟨pod, hpods, hendpoint⟩, ?_⟩
    · unfold next
      rw [hdone]
      rfl
    · obtain ⟨ip, -, hendpoint⟩ := Option.bind_eq_some_iff.mp hendpoint
      obtain ⟨port, -, hendpoint⟩ := Option.bind_eq_some_iff.mp hendpoint
      obtain ⟨authority, htext⟩ := exists_endpointText ip port
      exact ⟨authority, (Option.some.inj hendpoint).symm.trans htext⟩
  unserved := by
    intro hnot
    rw [endpoint_next_of_not_done previous ns now hnot hsuits.applying, hsuits.keeps]
    by_cases hseveral : 1 < pods.length
    · rw [decide_eq_true hseveral, if_pos hseveral]
      rfl
    · rw [decide_eq_false hseveral, if_neg hseveral]
      rfl
  foreign := previous.foreign_next ns p now
  refs := ⟨p.pod, rfl⟩

end InstanceStatus

/-- Whatever the status was before, a cycle that succeeds writes one status, at its end, which is of
one piece and states the outcome of the cycle. -/
theorem Instance.reconcile_coherent {σ : Type} {server : Server σ} {i : Instance}
    {config : OperatorConfig} {now : Instant} {s : σ} {action : Action}
    (hok : ((i.reconcile config now).run server s).result = .ok action) :
    ∃ ns pods progress s' before st, i.ComesTo server config s ns pods progress s'
      ∧ action = progress.outcome.action
      ∧ (i.reconcile config now).exchanges server s
        = before ++ [⟨.patchStatus ns i.name st, .ok ()⟩]
      ∧ (∀ x ∈ before, x.call.kind ≠ .patchStatus)
      ∧ InstanceStatus.Coherent (i.status.getD {}) ns pods progress.outcome st := by
  obtain ⟨ns, pods, progress, s', before, hcomes, haction, hlog, hbefore, -, -⟩ :=
    Instance.reconcile_ok hok
  have hsuits : progress.Suits pods := by
    have hconverge := convergePods_suits server i ns config.notReadyBackoff pods
      ((discoverPods ((i.status.getD {}).refsOf .pod)).run server s).state trivial
    rw [hcomes.converged] at hconverge
    exact hconverge
  exact ⟨ns, pods, progress, s', before, _, hcomes, haction, hlog, hbefore,
    InstanceStatus.coherent_next _ ns now hsuits⟩

/-- The sample instance with a status that states the deployment twice, and something else. -/
def sampleStated : Instance :=
  { sampleInstance with status := some {
      conditions := [⟨"Deployed", .no, "PodNotRunning", "Buildkit pod not running", ⟨0, 0⟩⟩,
        ⟨"Paused", .unknown, "Asked", "", ⟨0, 0⟩⟩,
        ⟨"Deployed", .yes, "Available", "", ⟨0, 0⟩⟩]
      refs := [⟨.pod, "ci", "my-build-1"⟩, ⟨.configMap, "ci", "settings"⟩] } }

/-- The daemon of that instance serves. -/
theorem Instance.reconcile_coherent_stated :
    let s : Simulation := { cluster := { sampleCluster with
      instances := [sampleStated]
      pods := [(⟨"ci", "my-build-1"⟩, samplePod "my-build-1" "10.0.0.1")] } }
    ∃ (ns : String) (pods : List ApiPod) (progress : Progress) (before : List Exchange)
      (st : InstanceStatus), (sampleStated.reconcile {} ⟨0, 0⟩).exchanges Simulation.server s
        = before ++ [⟨.patchStatus ns "my-build" st, .ok ()⟩]
      ∧ InstanceStatus.Coherent (sampleStated.status.getD {}) ns pods progress.outcome st
      ∧ progress.outcome.action = .awaitChange
      ∧ st.conditions.filter Condition.isForeign = [⟨"Paused", .unknown, "Asked", "", ⟨0, 0⟩⟩] := by
  intro s
  have hok : ((sampleStated.reconcile {} ⟨0, 0⟩).run Simulation.server s).result
      = .ok .awaitChange := by decide
  obtain ⟨ns, pods, progress, s', before, st, -, haction, hlog, -, hcoherent⟩ :=
    Instance.reconcile_coherent hok
  refine ⟨ns, pods, progress, before, st, hlog, hcoherent, haction.symm, ?_⟩
  rw [hcoherent.foreign]
  decide

end BuildFleet
