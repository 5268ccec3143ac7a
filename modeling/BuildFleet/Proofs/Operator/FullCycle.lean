import BuildFleet.Proofs.Operator.Cycle
import BuildFleet.Proofs.Operator.Exchanges
import Mathlib.Data.List.Forall2

/-!
# One cycle from any status

A status may refer to any number of pods, also to one of them twice, to pods that are gone, and to
pods of another namespace. This is all that a cycle makes of it, in the terms of the references to
pods that are there (`Holdings.liveRefs`):

> `runCycle_completed`, `runCycle_interrupted`: what a cycle leaves that succeeds, or that fails.

Both tell what was said on the way (`Conducted`). Every pod that is referred to was looked up before
anything was changed, and so a pod is created only if each one was found to be gone, and the pods
that are deleted are those of the names that were found after the first one. A cycle may fail
between any two of its calls, and a call that fails may have been carried out.
-/

namespace BuildFleet

open Program (Ensures ReadsOnly)

namespace Holdings

/-- The references to pods that are there. -/
def liveRefs (h : Holdings) : List ManagedRef := h.podRefs.filter fun r => r.key ∈ h.pods

/-- The reference that is kept: the first one to a pod that is there. -/
def survivor? (h : Holdings) : Option ManagedRef := h.liveRefs.head?

/-- A reference is live if its pod is there. -/
theorem mem_liveRefs {h : Holdings} {r : ManagedRef} :
    r ∈ h.liveRefs ↔ r ∈ h.podRefs ∧ r.key ∈ h.pods := by
  unfold liveRefs
  rw [List.mem_filter, decide_eq_true_iff]

/-- The changes that a cycle may make: a pod is created if none that is referred to is there, and
surplus pods are deleted, by the names of those that are there. -/
def Permits (ns : String) (h : Holdings) : Call → Prop
  | .createPod ns' _ => ns' = ns ∧ h.liveRefs = []
  | .deletePod ns' name => ns' = ns ∧ ∃ r ∈ h.liveRefs.tail, r.name = name
  | _ => True

end Holdings

/-! ## What was said -/

/-- The references were looked up: those to pods that are gone were answered so, and the others led
to the pods that were found, in order. -/
structure LookedUp (h : Holdings) (refs : List ManagedRef) (pods : List ApiPod)
    (log : List Exchange) : Prop where
  absent : ∀ r ∈ refs, r.key ∉ h.pods → ⟨.getPod r.ns r.name, .ok none⟩ ∈ log
  found : List.Forall₂ (fun r p => p.name = r.name ∧ ⟨.getPod r.ns r.name, .ok (some p)⟩ ∈ log)
    (refs.filter fun r => r.key ∈ h.pods) pods

namespace LookedUp

variable {h : Holdings} {refs : List ManagedRef} {pods : List ApiPod} {log log' : List Exchange}

theorem nil : LookedUp h [] [] log := ⟨fun _ hr => absurd hr List.not_mem_nil, .nil⟩

/-- One more reference is looked up. -/
theorem cons (hrest : LookedUp h refs pods log) {r : ManagedRef} {reply : Option ApiPod}
    (hname : reply.map ApiPod.name = if r.key ∈ h.pods then some r.name else none)
    (hreply : ⟨.getPod r.ns r.name, .ok reply⟩ ∈ log) :
    LookedUp h (r :: refs) (reply.toList ++ pods) log := by
  by_cases hin : r.key ∈ h.pods
  · rw [if_pos hin] at hname
    obtain ⟨p, rfl, hp⟩ := Option.map_eq_some_iff.mp hname
    refine ⟨?_, ?_⟩
    · intro r' hr' habsent
      rcases List.mem_cons.mp hr' with rfl | hr'
      · exact absurd hin habsent
      · exact hrest.absent r' hr' habsent
    · rw [List.filter_cons_of_pos (p := fun r : ManagedRef => r.key ∈ h.pods) (decide_eq_true hin)]
      exact .cons ⟨hp, hreply⟩ hrest.found
  · rw [if_neg hin] at hname
    obtain rfl := Option.map_eq_none_iff.mp hname
    refine ⟨?_, ?_⟩
    · intro r' hr' habsent
      rcases List.mem_cons.mp hr' with rfl | hr'
      · exact hreply
      · exact hrest.absent r' hr' habsent
    · rw [List.filter_cons_of_neg (p := fun r : ManagedRef => r.key ∈ h.pods)
        (decide_eq_false hin ▸ Bool.false_ne_true)]
      exact hrest.found

/-- What is looked up stays so in a longer log. -/
theorem mono (hlooked : LookedUp h refs pods log) (hsub : log ⊆ log') :
    LookedUp h refs pods log' :=
  ⟨fun r hr habsent => hsub (hlooked.absent r hr habsent),
    hlooked.found.imp fun _ _ hp => ⟨hp.1, hsub hp.2⟩⟩

/-- The pods that are found are those of the live references, in order. -/
theorem names (hlooked : LookedUp h h.podRefs pods log) :
    pods.map ApiPod.name = h.liveRefs.map ManagedRef.name := by
  refine List.forall₂_eq_eq_eq ▸ ?_
  rw [List.forall₂_map_left_iff, List.forall₂_map_right_iff]
  exact (hlooked.found.imp fun _ _ hp => hp.1).flip

end LookedUp

/-- What was said in a cycle that had looked up all pods, and made no changes but those that it
may. -/
structure Conducted (ns : String) (h : Holdings) (pods : List ApiPod) (log : List Exchange) :
    Prop where
  lookedUp : LookedUp h h.podRefs pods log
  permitted : ∀ x ∈ log, x.call.isRead = true ∨ h.Permits ns x.call

/-- One more call that reads or is permitted keeps the conduct. -/
theorem Conducted.append {ns : String} {h : Holdings} {pods : List ApiPod} {log : List Exchange}
    {x : Exchange} (hc : Conducted ns h pods log)
    (hx : x.call.isRead = true ∨ h.Permits ns x.call) : Conducted ns h pods (log ++ [x]) := by
  refine ⟨hc.lookedUp.mono (List.subset_append_left _ _), ?_⟩
  intro y hy
  rcases List.mem_append.mp hy with hy | hy
  · exact hc.permitted y hy
  · rw [List.mem_singleton.mp hy]
    exact hx

/-! ## What is changed -/

/-- The report that the rules for the instance come to, given what was said: it names no template,
or it was checked against the one that was found. -/
inductive Checked (i : Instance) (log : List Exchange) : Report → Prop where
  | unnamed (empty : i.spec.template.isEmpty = true) :
      Checked i log { violations := [.noTemplate] }
  | against {ns : String} {t : Template}
      (found : ⟨.getTemplate ns i.spec.template, .ok (some t)⟩ ∈ log) :
      Checked i log (i.checkAgainst t)

/-- What converging comes to that succeeds, given the pods that were found. -/
inductive Settles (i : Instance) (ns : String) (backoff : Nat) (h : Holdings)
    (log : List Exchange) : List ApiPod → Progress → Holdings → Prop where
  /-- No pod is there, and the instance breaks a rule. -/
  | refused {report : Report} (checked : Checked i log report) (broken : ¬ report.isValid = true) :
      Settles i ns backoff h log [] ⟨.failed .invalidSpec report.summary, none, false⟩ h
  /-- No pod is there, and one is created. -/
  | created {name : String} (fresh : (⟨ns, name⟩ : ObjectKey) ∉ h.pods) :
      Settles i ns backoff h log [] ⟨.applying, some name, false⟩ (h.withPod ⟨ns, name⟩)
  /-- The pod that is there is looked at. -/
  | used {p : ApiPod} : Settles i ns backoff h log [p]
      ⟨(ObservedPod.ofPod p).evaluate backoff, some p.name, false⟩ h
  /-- All pods but the first one are deleted. -/
  | pruned {keep p : ApiPod} {pods : List ApiPod} : Settles i ns backoff h log (keep :: p :: pods)
      ⟨.applying, some keep.name, true⟩ (h.without ((p :: pods).map fun q => ⟨ns, q.name⟩))

/-- What converging may leave, whether or not it succeeds. -/
inductive Leaves (ns : String) (h : Holdings) : Holdings → Prop where
  /-- A pod was created because none was there. -/
  | created {name : String} (none : h.liveRefs = []) (fresh : (⟨ns, name⟩ : ObjectKey) ∉ h.pods) :
      Leaves ns h (h.withPod ⟨ns, name⟩)
  /-- Some of the surplus pods were deleted. -/
  | pruned {gone : List ObjectKey}
      (surplus : gone ⊆ h.liveRefs.tail.map fun r => ⟨ns, r.name⟩) : Leaves ns h (h.without gone)

/-- Converging may leave things as they are. -/
theorem Leaves.refl (ns : String) (h : Holdings) : Leaves ns h h := by
  have hnone : Leaves ns h (h.without []) := .pruned (List.nil_subset _)
  rwa [Holdings.without_nil] at hnone

/-- Names that are the same make the same keys. -/
theorem map_key_of_names {ns : String} {refs : List ManagedRef} {pods : List ApiPod}
    (hnames : pods.map ApiPod.name = refs.map ManagedRef.name) :
    pods.map (fun p => ObjectKey.mk ns p.name) = refs.map fun r => ⟨ns, r.name⟩ := by
  have hkeys := congrArg (List.map (ObjectKey.mk ns)) hnames
  rwa [List.map_map, List.map_map] at hkeys

section

variable {i : Instance} {ns : String} {backoff : Nat} {h h' : Holdings} {log : List Exchange}
  {pods : List ApiPod} {progress : Progress}

/-- What is said afterwards does not change what it came to. -/
theorem Settles.mono {log' : List Exchange} (hsub : log ⊆ log')
    (hsettles : Settles i ns backoff h log pods progress h') :
    Settles i ns backoff h log' pods progress h' := by
  cases hsettles with
  | refused checked broken =>
    refine .refused ?_ broken
    cases checked with
    | unnamed empty => exact .unnamed empty
    | against found => exact .against (hsub found)
  | created fresh => exact .created fresh
  | used => exact .used
  | pruned => exact .pruned

/-- Where no pod is there, there is one more afterwards, or none. -/
theorem Settles.of_none (hnames : pods.map ApiPod.name = h.liveRefs.map ManagedRef.name)
    (hnone : h.liveRefs = []) (hsettles : Settles i ns backoff h log pods progress h') :
    (progress.pod = none ∧ h' = h ∧ ∃ report, Checked i log report ∧ ¬ report.isValid = true)
      ∨ ∃ name, (⟨ns, name⟩ : ObjectKey) ∉ h.pods ∧ progress.pod = some name
        ∧ h' = h.withPod ⟨ns, name⟩ := by
  rw [hnone, List.map_nil, List.map_eq_nil_iff] at hnames
  cases hsettles with
  | refused checked broken => exact Or.inl ⟨rfl, rfl, _, checked, broken⟩
  | created fresh => exact Or.inr ⟨_, fresh, rfl, rfl⟩
  | used => exact nomatch hnames
  | pruned => exact nomatch hnames

/-- Where pods are there, the first one is kept, and the others are gone by their names. -/
theorem Settles.of_live (hnames : pods.map ApiPod.name = h.liveRefs.map ManagedRef.name)
    {kept : ManagedRef} {surplus : List ManagedRef} (hlive : h.liveRefs = kept :: surplus)
    (hsettles : Settles i ns backoff h log pods progress h') :
    progress.pod = some kept.name ∧ h' = h.without (surplus.map fun r => ⟨ns, r.name⟩) := by
  rw [hlive, List.map_cons] at hnames
  cases hsettles with
  | refused checked broken => exact nomatch hnames
  | created fresh => exact nomatch hnames
  | used =>
    obtain ⟨hkept, hsurplus⟩ := List.cons.inj hnames
    rw [List.map_eq_nil_iff.mp hsurplus.symm]
    exact ⟨congrArg some hkept, h.without_nil.symm⟩
  | pruned =>
    obtain ⟨hkept, hsurplus⟩ := List.cons.inj hnames
    exact ⟨congrArg some hkept, congrArg h.without (map_key_of_names hsurplus)⟩

/-- Converging that succeeds leaves what converging may leave. -/
theorem Settles.leaves (hnames : pods.map ApiPod.name = h.liveRefs.map ManagedRef.name)
    (hsettles : Settles i ns backoff h log pods progress h') : Leaves ns h h' := by
  cases hlive : h.liveRefs with
  | nil =>
    rcases hsettles.of_none hnames hlive with ⟨-, rfl, -⟩ | ⟨name, hfresh, -, rfl⟩
    · exact .refl ns h'
    · exact .created hlive hfresh
  | cons kept surplus =>
    obtain ⟨-, rfl⟩ := hsettles.of_live hnames hlive
    refine .pruned ?_
    rw [hlive, List.tail_cons]
    exact List.Subset.refl _

end

/-- What a cycle leaves that succeeds: the status was written last and tells what it came to. -/
inductive Completed (i : Instance) (ns : String) (h : Holdings) (config : OperatorConfig)
    (now : Instant) : Action → Holdings → List Exchange → Prop where
  | recorded {pods : List ApiPod} {progress : Progress} {h' : Holdings} {log : List Exchange}
      (conducted : Conducted ns h pods log)
      (settles : Settles i ns config.notReadyBackoff h log pods progress h') :
      Completed i ns h config now progress.outcome.action
        (h'.withStatus ((h.status.getD {}).next ns progress now)) log

/-- What a cycle leaves that fails. -/
inductive Interrupted (i : Instance) (ns : String) (h : Holdings) (config : OperatorConfig)
    (now : Instant) : Holdings → List Exchange → Prop where
  /-- Nothing was changed yet. -/
  | lookingUp {log : List Exchange} (reads : ∀ x ∈ log, x.call.isRead = true) :
      Interrupted i ns h config now h log
  /-- The status was not written. -/
  | converging {pods : List ApiPod} {h' : Holdings} {log : List Exchange}
      (conducted : Conducted ns h pods log) (leaves : Leaves ns h h') :
      Interrupted i ns h config now h' log
  /-- The status was written although the call failed. -/
  | recording {pods : List ApiPod} {progress : Progress} {h' : Holdings} {log : List Exchange}
      (conducted : Conducted ns h pods log)
      (settles : Settles i ns config.notReadyBackoff h log pods progress h') :
      Interrupted i ns h config now (h'.withStatus ((h.status.getD {}).next ns progress now)) log

section

variable {i : Instance} {ns : String} {h h' : Holdings} {config : OperatorConfig} {now : Instant}
  {log : List Exchange}

/-- A cycle that ends has only made calls that it may make. -/
theorem Completed.conducted {action : Action} (hends : Completed i ns h config now action h' log) :
    ∃ pods, Conducted ns h pods log := by
  cases hends with
  | recorded conducted settles => exact ⟨_, conducted⟩

/-- Also a cycle that fails has looked up all pods before it changes anything. -/
theorem Interrupted.conducted (hends : Interrupted i ns h config now h' log) {x : Exchange}
    (hx : x ∈ log) (hchanges : x.call.isRead = false) : ∃ pods, Conducted ns h pods log := by
  cases hends with
  | lookingUp reads => exact nomatch hchanges.symm.trans (reads x hx)
  | converging conducted leaves => exact ⟨_, conducted⟩
  | recording conducted settles => exact ⟨_, conducted⟩

end

section

variable {σ : Type} {server : Server σ} {view : σ → Holdings} {key : ObjectKey} {h : Holdings}
  {Q : List Exchange → Prop}

/-! ## Single calls, with what was said before -/

theorem Serves.ensures_perform (hs : Serves server view key) (c : Call)
    (done : c.Reply → Holdings → List Exchange → Prop)
    (failed : Failure → Holdings → List Exchange → Prop)
    (hdone : ∀ reply h' log, Q log → c.Effect key reply h h' →
      done reply h' (log ++ [⟨c, .ok reply⟩]))
    (hfailed : ∀ e h' log, Q log → (h' = h ∨ ∃ reply, c.Effect key reply h h') →
      failed e h' (log ++ [⟨c, .error e⟩])) :
    (Program.perform c).Ensures server.logged (fun s => view s.1 = h ∧ Q s.2)
      (fun reply s => done reply (view s.1) s.2) (fun e s => failed e (view s.1) s.2) := by
  refine Program.ensures_perform ?_
  rintro ⟨s, log⟩ ⟨rfl, hlog⟩
  have hok := hs.done c s
  have herr := hs.failed c s
  rw [Server.logged_answer]
  generalize server.answer c s = answer at hok herr ⊢
  obtain ⟨reply, s'⟩ := answer
  cases reply with
  | ok reply => exact hdone reply _ log hlog (hok reply rfl)
  | error e => exact hfailed e _ log hlog (herr e rfl)

/-- A modifying call. It is not made if shutdown was requested. -/
theorem Serves.ensures_modify (hs : Serves server view key) (c : Call)
    (done : c.Reply → Holdings → List Exchange → Prop)
    (failed : Failure → Holdings → List Exchange → Prop)
    (hstop : ∀ log, Q log → failed .cancelled h log)
    (hdone : ∀ reply h' log, Q log → c.Effect key reply h h' →
      done reply h' (log ++ [⟨c, .ok reply⟩]))
    (hfailed : ∀ e h' log, Q log → (h' = h ∨ ∃ reply, c.Effect key reply h h') →
      failed e h' (log ++ [⟨c, .error e⟩])) :
    (Program.modify c).Ensures server.logged (fun s => view s.1 = h ∧ Q s.2)
      (fun reply s => done reply (view s.1) s.2) (fun e s => failed e (view s.1) s.2) := by
  refine Program.ensures_guarded ?_ (hs.ensures_perform c done failed hdone hfailed)
  rintro ⟨s, log⟩ ⟨rfl, hlog⟩
  exact hstop log hlog

/-- Looking up changes nothing, and so does a program that does nothing else. -/
theorem Serves.ensures_read (hs : Serves server view key) {α : Type} {p : Program α}
    (hp : p.ReadsOnly) (hQ : ∀ log x, Q log → x.call.isRead = true → Q (log ++ [x])) :
    p.Ensures server.logged (fun s => view s.1 = h ∧ Q s.2) (fun _ s => view s.1 = h ∧ Q s.2)
      (fun _ s => view s.1 = h ∧ Q s.2) := by
  refine hp.ensures_invariant ?_
  rintro c ⟨s, log⟩ hread ⟨rfl, hlog⟩
  refine ⟨?_, hQ log _ hlog hread⟩
  show view (server.answer c s).2 = view s
  cases hanswer : (server.answer c s).1 with
  | ok reply => exact (hs.done c s reply hanswer).of_isRead hread
  | error e =>
    rcases hs.failed c s e hanswer with hsame | ⟨reply, heffect⟩
    · exact hsame
    · exact heffect.of_isRead hread

/-! ## Looking up -/

/-- All references are looked up, in order. By induction on them; what is known of the exchanges so
far grows by the one about the first reference. -/
theorem discoverPods_lookedUp (hs : Serves server view key) :
    ∀ (refs : List ManagedRef) {Q : List Exchange → Prop},
      (∀ log x, Q log → x.call.isRead = true → Q (log ++ [x])) →
      (discoverPods refs).Ensures server.logged (fun s => view s.1 = h ∧ Q s.2)
        (fun pods s => (view s.1 = h ∧ Q s.2) ∧ LookedUp h refs pods s.2)
        (fun _ s => view s.1 = h ∧ Q s.2)
  | [], _, _ => Program.ensures_pure fun _ hs => ⟨hs, .nil⟩
  | r :: rest, Q, hQ => by
    have hget : (Program.perform (.getPod r.ns r.name)).Ensures server.logged
        (fun s => view s.1 = h ∧ Q s.2)
        (fun reply s => (view s.1 = h ∧ Q s.2 ∧ ⟨.getPod r.ns r.name, .ok reply⟩ ∈ s.2)
          ∧ Option.map ApiPod.name reply = if r.key ∈ h.pods then some r.name else none)
        (fun _ s => view s.1 = h ∧ Q s.2) := by
      refine hs.ensures_perform (.getPod r.ns r.name)
        (fun reply h' log => (h' = h ∧ Q log ∧ ⟨.getPod r.ns r.name, .ok reply⟩ ∈ log)
          ∧ Option.map ApiPod.name reply = if r.key ∈ h.pods then some r.name else none)
        (fun _ h' log => h' = h ∧ Q log) ?_ ?_
      · rintro reply h' log hlog ⟨rfl, hname⟩
        exact ⟨⟨rfl, hQ log _ hlog rfl, List.mem_append_right _ (List.mem_singleton_self _)⟩, hname⟩
      · rintro e h' log hlog (rfl | ⟨reply, rfl, -⟩)
        · exact ⟨rfl, hQ log _ hlog rfl⟩
        · exact ⟨rfl, hQ log _ hlog rfl⟩
    refine hget.bind ?_
    intro reply
    refine Program.ensures_of_imp ?_
    intro hname
    -- while the others are looked up, the reply to the first one is known
    have hrest := discoverPods_lookedUp hs rest
      (Q := fun log => Q log ∧ ⟨.getPod r.ns r.name, .ok reply⟩ ∈ log)
      fun log x hlog hx => ⟨hQ log x hlog.1 hx, List.mem_append_left _ hlog.2⟩
    refine (hrest.mono (fun _ _ hd => hd) fun _ _ hf => ⟨hf.1, hf.2.1⟩).bind ?_
    intro pods
    refine Program.ensures_pure ?_
    rintro s ⟨⟨hview, hlog, hreply⟩, hlooked⟩
    exact ⟨⟨hview, hlog⟩, hlooked.cons hname hreply⟩

/-- A template that is found is the one that was answered. -/
theorem resolveTemplate_found (hs : Serves server view key) (ns name : String)
    (hQ : ∀ log x, Q log → x.call.isRead = true → Q (log ++ [x])) :
    (resolveTemplate ns name).Ensures server.logged (fun s => view s.1 = h ∧ Q s.2)
      (fun t s => (view s.1 = h ∧ Q s.2) ∧ ⟨.getTemplate ns name, .ok (some t)⟩ ∈ s.2)
      (fun _ s => view s.1 = h ∧ Q s.2) := by
  have hget := hs.ensures_perform (.getTemplate ns name) (h := h) (Q := Q)
    (fun reply h' log => (h' = h ∧ Q log) ∧ ⟨.getTemplate ns name, .ok reply⟩ ∈ log)
    (fun _ h' log => h' = h ∧ Q log)
    (by
      rintro reply h' log hlog rfl
      exact ⟨⟨rfl, hQ log _ hlog rfl⟩, List.mem_append_right _ (List.mem_singleton_self _)⟩)
    (by
      rintro e h' log hlog (rfl | ⟨reply, rfl⟩)
      · exact ⟨rfl, hQ log _ hlog rfl⟩
      · exact ⟨rfl, hQ log _ hlog rfl⟩)
  refine hget.bind ?_
  intro found
  cases found with
  | none => exact Program.ensures_fail fun _ hs => hs.1
  | some t => exact Program.ensures_pure fun _ hs => hs

/-- An instance is checked against the template that was found. -/
theorem validate_checked (hs : Serves server view key) (i : Instance)
    (hQ : ∀ log x, Q log → x.call.isRead = true → Q (log ++ [x])) :
    i.validate.Ensures server.logged (fun s => view s.1 = h ∧ Q s.2)
      (fun report s => (view s.1 = h ∧ Q s.2) ∧ Checked i s.2 report)
      (fun _ s => view s.1 = h ∧ Q s.2) := by
  unfold Instance.validate
  split
  · next hempty => exact Program.ensures_pure fun _ hs => ⟨hs, .unnamed hempty⟩
  · refine (hs.ensures_read (readsOnly_namespaceOf i.ns) hQ).bind ?_
    intro ns
    refine (resolveTemplate_found hs ns _ hQ).bind ?_
    intro t
    exact Program.ensures_pure fun _ hs => ⟨hs.1, .against hs.2⟩

/-! ## Converging -/

/-- Deleting pods one by one. If it fails some are deleted. By induction on the names. -/
theorem deletePods_ensures (hs : Serves server view key) (ns : String) :
    ∀ (names : List String) {h : Holdings},
      (∀ log x name, Q log → name ∈ names → x.call = .deletePod ns name → Q (log ++ [x])) →
      (deletePods ns names).Ensures server.logged (fun s => view s.1 = h ∧ Q s.2)
        (fun _ s => view s.1 = h.without (names.map (ObjectKey.mk ns)) ∧ Q s.2)
        (fun _ s => (∃ gone, gone ⊆ names.map (ObjectKey.mk ns) ∧ view s.1 = h.without gone)
          ∧ Q s.2)
  | [], h, _ => Program.ensures_pure fun _ hs => ⟨hs.1.trans h.without_nil.symm, hs.2⟩
  | name :: rest, h, hQ => by
    -- where it ends early: before or after the first one was deleted
    have hkept : ∃ gone, gone ⊆ (name :: rest).map (ObjectKey.mk ns) ∧ h = h.without gone :=
      ⟨[], List.nil_subset _, h.without_nil.symm⟩
    have hgone : ∃ gone, gone ⊆ (name :: rest).map (ObjectKey.mk ns)
        ∧ h.without [⟨ns, name⟩] = h.without gone :=
      ⟨_, List.cons_subset_cons _ (List.nil_subset _), rfl⟩
    have hdelete := hs.ensures_modify (.deletePod ns name) (h := h) (Q := Q)
      (fun _ h' log => h' = h.without [⟨ns, name⟩] ∧ Q log)
      (fun _ h' log =>
        (∃ gone, gone ⊆ (name :: rest).map (ObjectKey.mk ns) ∧ h' = h.without gone) ∧ Q log)
      (fun log hlog => ⟨hkept, hlog⟩)
      (fun reply h' log hlog heffect => ⟨heffect, hQ log _ name hlog List.mem_cons_self rfl⟩)
      (by
        rintro e h' log hlog (rfl | ⟨reply, rfl⟩)
        · exact ⟨hkept, hQ log _ name hlog List.mem_cons_self rfl⟩
        · exact ⟨hgone, hQ log _ name hlog List.mem_cons_self rfl⟩)
    refine hdelete.bind ?_
    rintro -
    have hrest := deletePods_ensures hs ns rest (h := h.without [⟨ns, name⟩])
      fun log x name' hlog hname => hQ log x name' hlog (List.mem_cons_of_mem _ hname)
    refine hrest.mono ?_ ?_
    · rintro - s ⟨hview, hlog⟩
      rw [Holdings.without_without] at hview
      exact ⟨hview, hlog⟩
    · rintro - s ⟨⟨gone, hsub, hview⟩, hlog⟩
      rw [Holdings.without_without] at hview
      exact ⟨⟨_, List.cons_subset_cons _ hsub, hview⟩, hlog⟩

/-- Checking the instance and creating its pod, where none is there. -/
theorem createInstancePod_settles (hs : Serves server view key) (i : Instance) (ns : String)
    (backoff : Nat) (hnone : h.liveRefs = [])
    (hQ : ∀ log x, Q log → x.call.isRead = true ∨ h.Permits ns x.call → Q (log ++ [x])) :
    (createInstancePod i ns).Ensures server.logged (fun s => view s.1 = h ∧ Q s.2)
      (fun progress s => Settles i ns backoff h s.2 [] progress (view s.1) ∧ Q s.2)
      (fun _ s => Leaves ns h (view s.1) ∧ Q s.2) := by
  have hread : ∀ log x, Q log → x.call.isRead = true → Q (log ++ [x]) :=
    fun log x hlog hx => hQ log x hlog (Or.inl hx)
  have hstay : ∀ {s : σ × List Exchange},
      view s.1 = h ∧ Q s.2 → Leaves ns h (view s.1) ∧ Q s.2 := by
    rintro s ⟨rfl, hlog⟩
    exact ⟨.refl ns _, hlog⟩
  unfold createInstancePod
  refine ((validate_checked hs i hread).mono (fun _ _ hd => hd) fun _ _ => hstay).bind ?_
  intro report
  by_cases hvalid : report.isValid = true
  · rw [if_pos hvalid]
    refine (((hs.ensures_read i.readsOnly_requestPod hread).of_imp fun _ hs => hs.1).mono
      (fun _ _ hd => hd) fun _ _ => hstay).bind ?_
    intro pod
    have hpermits : h.Permits ns (.createPod ns pod) := ⟨rfl, hnone⟩
    -- a pod may be created also where the call fails
    have hcreate := hs.ensures_modify (.createPod ns pod) (h := h) (Q := Q)
      (fun p h' log =>
        Settles i ns backoff h log [] ⟨.applying, some p.name, false⟩ h' ∧ Q log)
      (fun _ h' log => Leaves ns h h' ∧ Q log)
      (fun log hlog => ⟨.refl ns h, hlog⟩)
      (by
        rintro p h' log hlog ⟨hfresh, rfl⟩
        exact ⟨.created hfresh, hQ log _ hlog (Or.inr hpermits)⟩)
      (by
        rintro e h' log hlog (rfl | ⟨p, hfresh, rfl⟩)
        · exact ⟨.refl ns h', hQ log _ hlog (Or.inr hpermits)⟩
        · exact ⟨.created hnone hfresh, hQ log _ hlog (Or.inr hpermits)⟩)
    exact hcreate.bind fun _ => Program.ensures_pure fun _ hs => hs
  · rw [if_neg hvalid]
    refine Program.ensures_pure ?_
    rintro s ⟨⟨rfl, hlog⟩, hchecked⟩
    exact ⟨.refused hchecked hvalid, hlog⟩

/-- Converging on one pod, given the pods that were found. -/
theorem convergePods_settles (hs : Serves server view key) (i : Instance) (ns : String)
    (backoff : Nat) {pods : List ApiPod}
    (hnames : pods.map ApiPod.name = h.liveRefs.map ManagedRef.name)
    (hQ : ∀ log x, Q log → x.call.isRead = true ∨ h.Permits ns x.call → Q (log ++ [x])) :
    (convergePods i ns backoff pods).Ensures server.logged (fun s => view s.1 = h ∧ Q s.2)
      (fun progress s => Settles i ns backoff h s.2 pods progress (view s.1) ∧ Q s.2)
      (fun _ s => Leaves ns h (view s.1) ∧ Q s.2) := by
  match pods with
  | [] => exact createInstancePod_settles hs i ns backoff (List.map_eq_nil_iff.mp hnames.symm) hQ
  | [p] =>
    rw [convergePods_singleton]
    refine Program.ensures_pure ?_
    rintro s ⟨rfl, hlog⟩
    exact ⟨.used, hlog⟩
  | keep :: p :: pods =>
    -- what is deleted has the names of the surplus references
    have htail : (p :: pods).map ApiPod.name = h.liveRefs.tail.map ManagedRef.name := by
      rw [List.map_tail, ← hnames]
      rfl
    have hdelete := deletePods_ensures hs ns ((p :: pods).map ApiPod.name) (h := h) (Q := Q)
      (by
        intro log x name hlog hname hx
        rw [htail] at hname
        exact hQ log x hlog (Or.inr (hx ▸ ⟨rfl, List.mem_map.mp hname⟩)))
    rw [List.map_map] at hdelete
    show (deletePods ns ((p :: pods).map ApiPod.name) >>= fun _ => pure _).Ensures _ _ _ _
    refine (hdelete.mono (fun _ _ hd => hd) ?_).bind ?_
    · rintro - s ⟨⟨gone, hsub, hview⟩, hlog⟩
      rw [hview]
      exact ⟨.pruned (map_key_of_names htail ▸ hsub), hlog⟩
    · rintro -
      refine Program.ensures_pure ?_
      rintro s ⟨hview, hlog⟩
      rw [hview]
      exact ⟨.pruned, hlog⟩

/-! ## The whole cycle -/

/-- A cycle that is given any status. -/
theorem reconcile_ends {i : Instance} (hs : Serves server view ⟨i.ns.getD "", i.name⟩)
    (config : OperatorConfig) (now : Instant) (hstatus : i.status = h.status) :
    (i.reconcile config now).Ensures server.logged (fun s => view s.1 = h ∧ s.2 = [])
      (fun action s => Completed i (i.ns.getD "") h config now action (view s.1) s.2)
      (fun _ s => Interrupted i (i.ns.getD "") h config now (view s.1) s.2) := by
  have hlook : ∀ {s : σ × List Exchange}, view s.1 = h ∧ (∀ x ∈ s.2, x.call.isRead = true) →
      Interrupted i (i.ns.getD "") h config now (view s.1) s.2 := by
    rintro s ⟨rfl, hlog⟩
    exact .lookingUp hlog
  cases hns : i.ns with
  | none =>
    unfold Instance.reconcile
    rw [hns]
    refine Program.ensures_fail ?_
    rintro ⟨s, log⟩ ⟨hview, rfl⟩
    rw [hns] at hlook
    exact hlook ⟨hview, fun _ hx => absurd hx List.not_mem_nil⟩
  | some ns =>
    rw [hns, Option.getD_some] at hs hlook
    have hrefs : (i.status.getD {}).refsOf .pod = h.podRefs := by
      rw [hstatus]
      rfl
    rw [reconcile_eq hns, hrefs, hstatus]
    have hdiscover := discoverPods_lookedUp hs h.podRefs (h := h)
      (Q := fun log => ∀ x ∈ log, x.call.isRead = true)
      (by
        intro log x hlog hx y hy
        rcases List.mem_append.mp hy with hy | hy
        · exact hlog y hy
        · rw [List.mem_singleton.mp hy]
          exact hx)
    have hstart : ∀ s : σ × List Exchange, view s.1 = h ∧ s.2 = [] →
        view s.1 = h ∧ ∀ x ∈ s.2, x.call.isRead = true := by
      rintro ⟨s, log⟩ ⟨hview, rfl⟩
      exact ⟨hview, fun _ hx => absurd hx List.not_mem_nil⟩
    refine ((hdiscover.of_imp hstart).mono (fun _ _ hd => hd) fun _ _ => hlook).bind ?_
    intro pods
    refine Program.ensures_of_state ?_
    rintro ⟨s, log⟩ ⟨⟨hview, hreads⟩, hlooked⟩
    -- from here on, all pods are looked up, and what is said is about changes
    have hnames := hlooked.names
    have hconducted : Conducted ns h pods log := ⟨hlooked, fun x hx => Or.inl (hreads x hx)⟩
    have hconverge := (convergePods_settles hs i ns config.notReadyBackoff hnames
      (Q := Conducted ns h pods) fun log x hlog hx => hlog.append hx).of_imp
      (show ∀ s', s' = (s, log) → view s'.1 = h ∧ Conducted ns h pods s'.2 by
        rintro s' rfl
        exact ⟨hview, hconducted⟩)
    refine (hconverge.mono (fun _ _ hd => hd) fun _ s hf => .converging hf.2 hf.1).bind ?_
    intro progress
    refine Program.ensures_of_state ?_
    rintro ⟨s, log⟩ ⟨hsettles, hlog⟩
    have hleaves := hsettles.leaves hnames
    let st := (h.status.getD {}).next ns progress now
    have hpatch := hs.ensures_modify (.patchStatus ns i.name st) (h := view s)
      (Q := fun log' => Conducted ns h pods log' ∧ log ⊆ log')
      (fun _ h' log => Completed i ns h config now progress.outcome.action h' log)
      (fun _ h' log => Interrupted i ns h config now h' log)
      (fun log' hlog' => .converging hlog'.1 hleaves)
      (by
        rintro reply h' log' ⟨hlog', hsub⟩ heffect
        rw [heffect rfl]
        exact .recorded (hlog'.append (Or.inr trivial))
          (hsettles.mono (List.Subset.trans hsub (List.subset_append_left _ _))))
      (by
        rintro e h' log' ⟨hlog', hsub⟩ (rfl | ⟨reply, heffect⟩)
        · exact .converging (hlog'.append (Or.inr trivial)) hleaves
        · rw [heffect rfl]
          exact .recording (hlog'.append (Or.inr trivial))
            (hsettles.mono (List.Subset.trans hsub (List.subset_append_left _ _))))
    refine (hpatch.of_imp ?_).bind fun _ => Program.ensures_pure fun _ hs => hs
    rintro s' rfl
    exact ⟨rfl, hlog, List.Subset.refl _⟩

/-- The exchanges of one cycle of an instance as it is stored. -/
def cycleExchanges (server : Server σ) (view : σ → Holdings) (i : Instance)
    (config : OperatorConfig) (now : Instant) (s : σ) : List Exchange :=
  ({ i with status := (view s).status }.reconcile config now).exchanges server s

/-- A cycle that succeeds, of an instance as it is stored with whatever status. -/
theorem runCycle_completed {i : Instance} (hs : Serves server view ⟨i.ns.getD "", i.name⟩)
    {config : OperatorConfig} {now : Instant} {s : σ} {action : Action}
    (hok : (runCycle server view i config now s).result = .ok action) :
    Completed { i with status := (view s).status } (i.ns.getD "") (view s) config now action
      (view (runCycle server view i config now s).state)
      (cycleExchanges server view i config now s) := by
  have hends := (reconcile_ends (i := { i with status := (view s).status }) hs config now
    rfl).exchanges s ⟨rfl, rfl⟩
  unfold runCycle at hok ⊢
  rw [hok] at hends
  exact hends

/-- A cycle that fails. -/
theorem runCycle_interrupted {i : Instance} (hs : Serves server view ⟨i.ns.getD "", i.name⟩)
    {config : OperatorConfig} {now : Instant} {s : σ} {e : Failure}
    (herror : (runCycle server view i config now s).result = .error e) :
    Interrupted { i with status := (view s).status } (i.ns.getD "") (view s) config now
      (view (runCycle server view i config now s).state)
      (cycleExchanges server view i config now s) := by
  have hends := (reconcile_ends (i := { i with status := (view s).status }) hs config now
    rfl).exchanges s ⟨rfl, rfl⟩
  unfold runCycle at herror ⊢
  rw [herror] at hends
  exact hends

end

end BuildFleet
