import BuildFleet.Proofs.Operator.Cycle
import BuildFleet.Proofs.Operator.Exchanges

/-!
# Preparing before changing

A cycle looks up pods and the template, checks the instance and builds its pod, and only then
creates or deletes pods and writes the status. Once it has made a modifying call, it reads nothing
more and does not fail on its own. This can be told from the program alone, whatever the server
answers (`Prepares`), and so can which calls it makes (`Makes`):

> `Prepares.run_error`: a run that fails has only read, or it was ended by a modifying call that
> failed or by shutdown (`Breaks`).

A cycle that succeeds has gone through all of its parts, and what it wrote is what it came to
(`Instance.reconcile_ok`).
-/

namespace BuildFleet

namespace Program

variable {σ α β : Type} {server : Server σ}

/-! ## Taking a run apart -/

/-- Both parts of a program that ends with a result do. -/
theorem bind_ok {p : Program α} {f : α → Program β} {s : σ} {b : β}
    (hok : ((p >>= f).run server s).result = .ok b) :
    ∃ a, (p.run server s).result = .ok a
      ∧ ((f a).run server (p.run server s).state).result = .ok b
      ∧ ((p >>= f).run server s).state = ((f a).run server (p.run server s).state).state := by
  rw [run_bind] at hok ⊢
  cases hfirst : (p.run server s).result with
  | error e =>
    rw [hfirst] at hok
    exact nomatch hok
  | ok a =>
    rw [hfirst] at hok
    exact ⟨a, rfl, hok, rfl⟩

/-- A program that fails does so in its first part or after it. -/
theorem bind_error {p : Program α} {f : α → Program β} {s : σ} {e : Failure}
    (herror : ((p >>= f).run server s).result = .error e) :
    (p.run server s).result = .error e ∨ ∃ a, (p.run server s).result = .ok a
      ∧ ((f a).run server (p.run server s).state).result = .error e := by
  rw [run_bind] at herror
  cases hfirst : (p.run server s).result with
  | error e' =>
    rw [hfirst] at herror
    exact Or.inl (congrArg Except.error (Except.error.inj herror))
  | ok a =>
    rw [hfirst] at herror
    exact Or.inr ⟨a, rfl, herror⟩

/-- The exchanges of one program after another. By induction on the first program. -/
theorem exchanges_bind (server : Server σ) (f : α → Program β) : ∀ (p : Program α) (s : σ),
    (p >>= f).exchanges server s = p.exchanges server s ++
      match (p.run server s).result with
      | .ok a => (f a).exchanges server (p.run server s).state
      | .error _ => []
  | finish (.ok _), _ => rfl
  | finish (.error _), _ => rfl
  | guarded next, s => by
    have hbind : guarded next >>= f = guarded (next >>= f) := rfl
    rw [hbind, exchanges, exchanges, run]
    by_cases hstop : server.stopping s = true
    · rw [if_pos hstop, if_pos hstop, if_pos hstop]
      rfl
    · rw [if_neg hstop, if_neg hstop, if_neg hstop, exchanges_bind server f next s]
  | call c next, s => by
    have hbind : call c next >>= f = call c fun r => next r >>= f := rfl
    rw [hbind, exchanges, exchanges, run]
    generalize server.answer c s = answer
    obtain ⟨reply, s'⟩ := answer
    cases reply with
    | error e => rfl
    | ok r => exact congrArg (⟨c, .ok r⟩ :: ·) (exchanges_bind server f (next r) s')

/-- The exchanges of two steps are those of the first and then those of the second. -/
theorem exchanges_bind_of_ok {p : Program α} {f : α → Program β} {s : σ} {a : α}
    (hok : (p.run server s).result = .ok a) : (p >>= f).exchanges server s
      = p.exchanges server s ++ (f a).exchanges server (p.run server s).state := by
  rw [exchanges_bind, hok]

/-- After a step that fails nothing is exchanged. -/
theorem exchanges_bind_of_error {p : Program α} {f : α → Program β} {s : σ} {e : Failure}
    (herror : (p.run server s).result = .error e) :
    (p >>= f).exchanges server s = p.exchanges server s := by
  rw [exchanges_bind, herror, List.append_nil]

/-- A modifying call that succeeds was made and answered. -/
theorem modify_ok {c : Call} {s : σ} {r : c.Reply}
    (hok : ((modify c).run server s).result = .ok r) :
    (server.answer c s).1 = .ok r ∧ (modify c).exchanges server s = [⟨c, .ok r⟩]
      ∧ ((modify c).run server s).state = (server.answer c s).2 := by
  unfold modify perform at hok ⊢
  rw [run] at hok ⊢
  rw [exchanges]
  by_cases hstop : server.stopping s = true
  · rw [if_pos hstop] at hok
    cases hok
  · rw [if_neg hstop, run] at hok ⊢
    rw [if_neg hstop, exchanges]
    generalize server.answer c s = answer at hok ⊢
    obtain ⟨reply, s'⟩ := answer
    cases reply with
    | error e => cases hok
    | ok r' =>
      obtain rfl := Except.ok.inj hok
      exact ⟨rfl, rfl, rfl⟩

/-- A modifying call that fails was answered so, or was not made. -/
theorem modify_error {c : Call} {s : σ} {e : Failure}
    (herror : ((modify c).run server s).result = .error e) :
    ∀ x ∈ (modify c).exchanges server s, x = ⟨c, .error e⟩ := by
  unfold modify perform at herror ⊢
  rw [run] at herror
  rw [exchanges]
  by_cases hstop : server.stopping s = true
  · rw [if_pos hstop]
    exact fun x hx => absurd hx List.not_mem_nil
  · rw [if_neg hstop, run] at herror
    rw [if_neg hstop, exchanges]
    generalize server.answer c s = answer at herror ⊢
    obtain ⟨reply, s'⟩ := answer
    cases reply with
    | error e' =>
      intro x hx
      rw [List.mem_singleton.mp hx, Except.error.inj herror]
    | ok r => cases herror

/-! ## Which calls are made -/

/-- All calls of the program are allowed. -/
def Makes (allowed : Call → Prop) : Program α → Prop
  | finish _ => True
  | guarded next => next.Makes allowed
  | call c next => allowed c ∧ ∀ r, (next r).Makes allowed

section

variable {allowed : Call → Prop}

/-- Two steps make only allowed calls if each of them does. -/
theorem Makes.bind {f : α → Program β} (hf : ∀ a, (f a).Makes allowed) :
    ∀ {p : Program α}, p.Makes allowed → (p >>= f).Makes allowed
  | finish (.ok a), _ => hf a
  | finish (.error _), _ => trivial
  | guarded next, h => Makes.bind hf (p := next) h
  | call _ _, h => ⟨h.1, fun r => Makes.bind hf (h.2 r)⟩

theorem makes_pure (a : α) : (pure a : Program α).Makes allowed := trivial

/-- A modifying call that is allowed makes only allowed calls. -/
theorem makes_modify {c : Call} (h : allowed c) : (modify c).Makes allowed :=
  ⟨h, fun _ => trivial⟩

/-- A program that only reads makes no other calls. -/
theorem ReadsOnly.makes (hread : ∀ c : Call, c.isRead = true → allowed c) :
    ∀ {p : Program α}, p.ReadsOnly → p.Makes allowed
  | finish _, _ => trivial
  | guarded next, h => ReadsOnly.makes hread (p := next) h
  | call c _, h => ⟨hread c h.1, fun r => ReadsOnly.makes hread (h.2 r)⟩

/-- The calls of a run are among those of the program. By induction on the program. -/
theorem Makes.exchanges (server : Server σ) : ∀ {p : Program α}, p.Makes allowed → ∀ s,
    ∀ x ∈ p.exchanges server s, allowed x.call
  | finish _, _, _, x, hx => absurd hx List.not_mem_nil
  | guarded next, h, s, x, hx => by
    rw [Program.exchanges] at hx
    split at hx
    · exact absurd hx List.not_mem_nil
    · exact Makes.exchanges server (p := next) h s x hx
  | call c next, h, s, x, hx => by
    rw [Program.exchanges] at hx
    generalize server.answer c s = answer at hx
    obtain ⟨reply, s'⟩ := answer
    cases reply with
    | error e =>
      rw [List.mem_singleton.mp hx]
      exact h.1
    | ok r =>
      rcases List.mem_cons.mp hx with rfl | hx
      · exact h.1
      · exact Makes.exchanges server (h.2 r) s' x hx

end

/-! ## Phases -/

/-- The program reads nothing and does not fail on its own. -/
def Persists : Program α → Prop
  | finish r => ∃ a, r = .ok a
  | guarded next => next.Persists
  | call c next => c.isRead = false ∧ ∀ r, (next r).Persists

/-- From its first modifying call on, the program persists. -/
def Prepares : Program α → Prop
  | finish _ => True
  | guarded next => next.Prepares
  | call c next => ∀ r, if c.isRead = true then (next r).Prepares else (next r).Persists

theorem persists_pure (a : α) : (pure a : Program α).Persists := ⟨a, rfl⟩

/-- A modifying call persists. -/
theorem persists_modify {c : Call} (h : c.isRead = false) : (modify c).Persists :=
  ⟨h, fun r => ⟨r, rfl⟩⟩

/-- Two steps persist if each of them does. -/
theorem Persists.bind {f : α → Program β} (hf : ∀ a, (f a).Persists) :
    ∀ {p : Program α}, p.Persists → (p >>= f).Persists
  | finish _, ⟨a, rfl⟩ => hf a
  | guarded next, h => Persists.bind hf (p := next) h
  | call _ _, h => ⟨h.1, fun r => Persists.bind hf (h.2 r)⟩

/-- What persists from its start does so from its first modifying call on. -/
theorem Persists.prepares : ∀ {p : Program α}, p.Persists → p.Prepares
  | finish _, _ => trivial
  | guarded next, h => Persists.prepares (p := next) h
  | call c next, h => by
    intro r
    rw [if_neg (h.1 ▸ Bool.false_ne_true)]
    exact h.2 r

/-- A program may prepare as long as what came before only read. -/
theorem ReadsOnly.bind_prepares {f : α → Program β} (hf : ∀ a, (f a).Prepares) :
    ∀ {p : Program α}, p.ReadsOnly → (p >>= f).Prepares
  | finish (.ok a), _ => hf a
  | finish (.error _), _ => trivial
  | guarded next, h => ReadsOnly.bind_prepares hf (p := next) h
  | call c next, h => by
    have hrest : ∀ r, (next r >>= f).Prepares := fun r => ReadsOnly.bind_prepares hf (h.2 r)
    intro r
    rw [if_pos h.1]
    exact hrest r

/-- After a program that may have changed something, the rest has to persist. -/
theorem Prepares.bind {f : α → Program β} (hf : ∀ a, (f a).Persists) :
    ∀ {p : Program α}, p.Prepares → (p >>= f).Prepares
  | finish (.ok a), _ => (hf a).prepares
  | finish (.error _), _ => trivial
  | guarded next, h => Prepares.bind hf (p := next) h
  | call c next, h => by
    show ∀ r, if c.isRead = true then (next r >>= f).Prepares else (next r >>= f).Persists
    intro r
    have hr := h r
    by_cases hread : c.isRead = true
    · rw [if_pos hread] at hr ⊢
      exact Prepares.bind hf hr
    · rw [if_neg hread] at hr ⊢
      exact Persists.bind hf hr

end Program

/-- How a run ends that was changing something: all calls succeeded and shutdown was requested, or
the last call was to change something and failed. -/
inductive Breaks (e : Failure) : List Exchange → Prop where
  /-- Shutdown was requested. -/
  | stopped {log : List Exchange} (cancelled : e = .cancelled)
      (answered : ∀ x ∈ log, ∃ r, x.reply = .ok r) : Breaks e log
  /-- A modifying call failed. -/
  | refused {before : List Exchange} {c : Call} (modifies : c.isRead = false)
      (answered : ∀ x ∈ before, ∃ r, x.reply = .ok r) : Breaks e (before ++ [⟨c, .error e⟩])

namespace Breaks

variable {e : Failure} {log : List Exchange}

/-- The only call was to change something and failed. -/
theorem single {c : Call} (hc : c.isRead = false) : Breaks e [⟨c, .error e⟩] := by
  rw [← List.nil_append [(⟨c, .error e⟩ : Exchange)]]
  exact .refused hc fun x hx => absurd hx List.not_mem_nil

/-- One more call succeeded before. -/
theorem cons {c : Call} {r : c.Reply} (h : Breaks e log) : Breaks e (⟨c, .ok r⟩ :: log) := by
  have hcons : ∀ {before : List Exchange}, (∀ x ∈ before, ∃ r, x.reply = .ok r) →
      ∀ x ∈ (⟨c, .ok r⟩ :: before : List Exchange), ∃ r, x.reply = .ok r := by
    intro before hbefore x hx
    rcases List.mem_cons.mp hx with rfl | hx
    · exact ⟨r, rfl⟩
    · exact hbefore x hx
  cases h with
  | stopped cancelled answered => exact .stopped cancelled (hcons answered)
  | refused modifies answered => exact .refused modifies (hcons answered)

/-- A call that failed was to change something, and its failure is that of the run. -/
theorem of_mem (h : Breaks e log) {x : Exchange} (hx : x ∈ log) {e' : Failure}
    (hfailed : x.reply = .error e') : x.call.isRead = false ∧ e' = e := by
  have hanswered : ∀ {before : List Exchange}, (∀ x ∈ before, ∃ r, x.reply = .ok r) →
      x ∉ before := by
    intro before hbefore hx
    obtain ⟨r, hr⟩ := hbefore x hx
    exact nomatch hfailed.symm.trans hr
  cases h with
  | stopped _ answered => exact absurd hx (hanswered answered)
  | refused modifies answered =>
    rcases List.mem_append.mp hx with hx | hx
    · exact absurd hx (hanswered answered)
    · obtain rfl := List.mem_singleton.mp hx
      exact ⟨modifies, (Except.error.inj hfailed).symm⟩

/-- What ended the run: shutdown, or a modifying call that failed so. -/
theorem cause (h : Breaks e log) : e = .cancelled
    ∨ ∃ x ∈ log, x.call.isRead = false ∧ x.reply = .error e := by
  cases h with
  | stopped cancelled _ => exact Or.inl cancelled
  | refused modifies _ =>
    exact Or.inr ⟨_, List.mem_append_right _ (List.mem_singleton_self _), modifies, rfl⟩

end Breaks

namespace Program

variable {σ α : Type} {server : Server σ}

/-- A program that persists fails only because of its calls, or of shutdown. -/
theorem Persists.run_error {e : Failure} : ∀ {p : Program α}, p.Persists → ∀ {s : σ},
    (p.run server s).result = .error e → Breaks e (p.exchanges server s)
  | finish _, ⟨_, rfl⟩, _, herror => nomatch herror
  | guarded next, h, s, herror => by
    rw [run] at herror
    rw [exchanges]
    by_cases hstop : server.stopping s = true
    · rw [if_pos hstop] at herror ⊢
      exact .stopped (Except.error.inj herror).symm fun x hx => absurd hx List.not_mem_nil
    · rw [if_neg hstop] at herror ⊢
      exact Persists.run_error (p := next) h herror
  | call c next, h, s, herror => by
    rw [run] at herror
    rw [exchanges]
    generalize server.answer c s = answer at herror ⊢
    obtain ⟨reply, s'⟩ := answer
    cases reply with
    | error e' =>
      obtain rfl := Except.error.inj herror
      exact .single h.1
    | ok r => exact (Persists.run_error (h.2 r) herror).cons

/-- A program that fails has only read, or it was changing something. By induction on the program;
what it makes of the reply to its first modifying call persists. -/
theorem Prepares.run_error {e : Failure} : ∀ {p : Program α}, p.Prepares → ∀ {s : σ},
    (p.run server s).result = .error e →
      (∀ x ∈ p.exchanges server s, x.call.isRead = true) ∨ Breaks e (p.exchanges server s)
  | finish _, _, _, _ => Or.inl fun x hx => absurd hx List.not_mem_nil
  | guarded next, h, s, herror => by
    rw [run] at herror
    rw [exchanges]
    by_cases hstop : server.stopping s = true
    · rw [if_pos hstop]
      exact Or.inl fun x hx => absurd hx List.not_mem_nil
    · rw [if_neg hstop] at herror ⊢
      exact Prepares.run_error (p := next) h herror
  | call c next, h, s, herror => by
    rw [run] at herror
    rw [exchanges]
    generalize server.answer c s = answer at herror ⊢
    obtain ⟨reply, s'⟩ := answer
    by_cases hread : c.isRead = true
    · cases reply with
      | error e' =>
        refine Or.inl ?_
        intro x hx
        rw [List.mem_singleton.mp hx]
        exact hread
      | ok r =>
        have hr := h r
        rw [if_pos hread] at hr
        rcases Prepares.run_error hr herror with hreads | hbreaks
        · refine Or.inl ?_
          intro x hx
          rcases List.mem_cons.mp hx with rfl | hx
          · exact hread
          · exact hreads x hx
        · exact Or.inr hbreaks.cons
    · cases reply with
      | error e' =>
        obtain rfl := Except.error.inj herror
        exact Or.inr (.single (eq_false_of_ne_true hread))
      | ok r =>
        have hr := h r
        rw [if_neg hread] at hr
        exact Or.inr (Persists.run_error hr herror).cons

end Program

/-! ## The parts of a cycle -/

open Program (Persists Prepares ReadsOnly Makes)

/-- Discovering pods only reads. -/
theorem readsOnly_discoverPods : ∀ refs : List ManagedRef, (discoverPods refs).ReadsOnly
  | [] => trivial
  | r :: rest => by
    refine ReadsOnly.bind ?_ (Program.readsOnly_perform rfl)
    intro pod
    refine ReadsOnly.bind ?_ (readsOnly_discoverPods rest)
    intro pods
    trivial

/-- Deleting pods persists. -/
theorem persists_deletePods (ns : String) : ∀ names : List String, (deletePods ns names).Persists
  | [] => Program.persists_pure ()
  | _ :: rest => Persists.bind (fun _ => persists_deletePods ns rest) (Program.persists_modify rfl)

/-- Creating a pod is prepared before anything is modified. -/
theorem prepares_createInstancePod (i : Instance) (ns : String) :
    (createInstancePod i ns).Prepares := by
  refine ReadsOnly.bind_prepares ?_ i.readsOnly_validate
  intro report
  split
  · refine ReadsOnly.bind_prepares ?_ i.readsOnly_requestPod
    intro pod
    have hcreate : (Program.modify (.createPod ns pod)).Persists := Program.persists_modify rfl
    exact (hcreate.bind fun created => Program.persists_pure _).prepares
  · exact (Program.persists_pure _).prepares

/-- Bringing the pods down to one is prepared before anything is modified. -/
theorem prepares_convergePods (i : Instance) (ns : String) (backoff : Nat) (pods : List ApiPod) :
    (convergePods i ns backoff pods).Prepares := by
  unfold convergePods
  split
  · exact prepares_createInstancePod i ns
  · exact ((persists_deletePods ns _).bind fun _ => Program.persists_pure _).prepares
  · split
    · exact (Program.persists_pure _).prepares
    · trivial

/-- A cycle prepares before it changes anything. -/
theorem Instance.prepares_reconcile (i : Instance) (config : OperatorConfig) (now : Instant) :
    (i.reconcile config now).Prepares := by
  refine ReadsOnly.bind_prepares ?_ (readsOnly_namespaceOf i.ns)
  intro ns
  refine ReadsOnly.bind_prepares ?_ (readsOnly_discoverPods _)
  intro pods
  refine Prepares.bind ?_ (prepares_convergePods i ns _ pods)
  intro progress
  have hpatch : (Program.modify (.patchStatus ns i.name
      ((i.status.getD {}).next ns progress now))).Persists := Program.persists_modify rfl
  exact hpatch.bind fun _ => Program.persists_pure _

/-- A call that reads patches no status. -/
theorem Call.kind_ne_of_isRead {c : Call} (hc : c.isRead = true) : c.kind ≠ .patchStatus := by
  intro hkind
  cases c with
  | patchStatus ns name st => exact nomatch hc
  | _ => exact nomatch hkind

/-- While pods are converged, they are created and deleted, and all else is read. -/
theorem makes_convergePods_of {allowed : Call → Prop}
    (hread : ∀ c : Call, c.isRead = true → allowed c)
    (hcreate : ∀ ns pod, allowed (.createPod ns pod))
    (hdelete : ∀ ns name, allowed (.deletePod ns name)) (i : Instance) (ns : String)
    (backoff : Nat) (pods : List ApiPod) : (convergePods i ns backoff pods).Makes allowed := by
  have hdeletes : ∀ names, (deletePods ns names).Makes allowed := by
    intro names
    induction names with
    | nil => trivial
    | cons name rest ih =>
      exact Makes.bind (fun _ => ih) (Program.makes_modify (hdelete ns name))
  unfold convergePods
  split
  · refine Makes.bind ?_ (i.readsOnly_validate.makes hread)
    intro report
    split
    · refine Makes.bind ?_ (i.readsOnly_requestPod.makes hread)
      intro pod
      refine Makes.bind ?_ (Program.makes_modify (hcreate ns pod))
      intro created
      trivial
    · trivial
  · exact Makes.bind (fun _ => Program.makes_pure _) (hdeletes _)
  · split
    · trivial
    · trivial

/-- A status is not written while pods are converged. -/
theorem makes_convergePods (i : Instance) (ns : String) (backoff : Nat) (pods : List ApiPod) :
    (convergePods i ns backoff pods).Makes fun c => c.kind ≠ .patchStatus :=
  makes_convergePods_of (fun _ => Call.kind_ne_of_isRead) (fun _ _ => CallKind.noConfusion)
    (fun _ _ => CallKind.noConfusion) i ns backoff pods

/-! ## The whole cycle -/

section

variable {σ : Type} {server : Server σ} {i : Instance} {config : OperatorConfig} {now : Instant}
  {s : σ}

/-- What a cycle of the instance has come to when it is about to write the status: the pods that
were found, what converging them came to, and the state that this left. -/
structure Instance.ComesTo (server : Server σ) (i : Instance) (config : OperatorConfig) (s : σ)
    (ns : String) (pods : List ApiPod) (progress : Progress) (s' : σ) : Prop where
  inNamespace : i.ns = some ns
  found : ((discoverPods ((i.status.getD {}).refsOf .pod)).run server s).result = .ok pods
  converged : ((convergePods i ns config.notReadyBackoff pods).run server
    ((discoverPods ((i.status.getD {}).refsOf .pod)).run server s).state).result = .ok progress
  left : ((convergePods i ns config.notReadyBackoff pods).run server
    ((discoverPods ((i.status.getD {}).refsOf .pod)).run server s).state).state = s'

/-- A cycle that succeeds ends by writing the status that follows from what it came to. -/
theorem Instance.reconcile_ok {action : Action}
    (hok : ((i.reconcile config now).run server s).result = .ok action) :
    ∃ ns pods progress s' before, i.ComesTo server config s ns pods progress s'
      ∧ action = progress.outcome.action
      ∧ (i.reconcile config now).exchanges server s = before
        ++ [⟨.patchStatus ns i.name ((i.status.getD {}).next ns progress now), .ok ()⟩]
      ∧ (∀ x ∈ before, x.call.kind ≠ .patchStatus)
      ∧ (server.answer
        (.patchStatus ns i.name ((i.status.getD {}).next ns progress now)) s').1 = .ok ()
      ∧ ((i.reconcile config now).run server s).state = (server.answer
        (.patchStatus ns i.name ((i.status.getD {}).next ns progress now)) s').2 := by
  cases hns : i.ns with
  | none =>
    unfold Instance.reconcile at hok
    rw [hns] at hok
    exact nomatch hok
  | some ns =>
    rw [reconcile_eq hns] at hok ⊢
    obtain ⟨pods, hfound, hok, hstate⟩ := Program.bind_ok hok
    rw [hstate, Program.exchanges_bind_of_ok hfound]
    obtain ⟨progress, hconverged, hok, hstate⟩ := Program.bind_ok hok
    rw [hstate, Program.exchanges_bind_of_ok hconverged]
    obtain ⟨reply, hpatched, hok, hstate⟩ := Program.bind_ok hok
    rw [hstate, Program.exchanges_bind_of_ok hpatched]
    obtain ⟨hanswer, hexchange, hpatch⟩ := Program.modify_ok hpatched
    rw [hexchange]
    refine ⟨ns, pods, progress, _, _, ⟨hns, hfound, hconverged, rfl⟩, (Except.ok.inj hok).symm,
      (List.append_assoc _ _ _).symm, ?_, hanswer, hpatch⟩
    intro x hx
    rcases List.mem_append.mp hx with hx | hx
    · exact ((readsOnly_discoverPods _).makes fun _ => Call.kind_ne_of_isRead).exchanges server s
        x hx
    · exact (makes_convergePods i ns _ pods).exchanges server _ x hx

/-- A cycle that fails has written no status. -/
theorem Instance.reconcile_error {e : Failure}
    (herror : ((i.reconcile config now).run server s).result = .error e) {x : Exchange}
    (hx : x ∈ (i.reconcile config now).exchanges server s) (hkind : x.call.kind = .patchStatus) :
    x.reply = .error e := by
  cases hns : i.ns with
  | none =>
    unfold Instance.reconcile at hx
    rw [hns] at hx
    exact absurd hx List.not_mem_nil
  | some ns =>
    rw [reconcile_eq hns] at herror hx
    have hlook : x ∉ (discoverPods ((i.status.getD {}).refsOf .pod)).exchanges server s :=
      fun hx => ((readsOnly_discoverPods _).makes fun _ => Call.kind_ne_of_isRead).exchanges
        server s x hx hkind
    rcases Program.bind_error herror with hfails | ⟨pods, hfound, herror⟩
    · rw [Program.exchanges_bind_of_error hfails] at hx
      exact absurd hx hlook
    rw [Program.exchanges_bind_of_ok hfound] at hx
    replace hx := (List.mem_append.mp hx).resolve_left hlook
    have hconverge : x ∉ (convergePods i ns config.notReadyBackoff pods).exchanges server
        ((discoverPods ((i.status.getD {}).refsOf .pod)).run server s).state :=
      fun hx => (makes_convergePods i ns _ pods).exchanges server _ x hx hkind
    rcases Program.bind_error herror with hfails | ⟨progress, hconverged, herror⟩
    · rw [Program.exchanges_bind_of_error hfails] at hx
      exact absurd hx hconverge
    rw [Program.exchanges_bind_of_ok hconverged] at hx
    replace hx := (List.mem_append.mp hx).resolve_left hconverge
    rcases Program.bind_error herror with hfails | ⟨reply, -, hpure⟩
    · rw [Program.exchanges_bind_of_error hfails] at hx
      rw [Program.modify_error hfails x hx]
    · exact nomatch hpure

end

end BuildFleet
