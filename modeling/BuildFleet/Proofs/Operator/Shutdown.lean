import BuildFleet.Proofs.Blueprint.Daemon
import BuildFleet.Proofs.Operator.FailedCycle
import BuildFleet.Proofs.Operator.Publication

/-!
# Shutdown in the middle of a cycle

Shutdown may be requested before, after or between any two calls of a cycle. `Server.stoppedAfter k`
is a server with which this happens once `k` calls were made. What is said with it is compared with
what is said when nothing of the kind happens (`Server.running`).

What decides it is where a program asks: right before each of its modifying calls, and nowhere else
(`Program.Orderly`). So a run goes on as before until it is about to modify something, and there it
ends (`Cut`).

> `Cycle.run_stopped`: no cycle modifies anything after shutdown was requested, and it fails unless
> it has nothing left to modify.
-/

namespace BuildFleet

/-- The server while shutdown is not requested. -/
def Server.running {σ : Type} (server : Server σ) : Server σ :=
  { server with stopping := fun _ => false }

/-- The server with shutdown requested as soon as so many calls were made. They are counted beside
the state. -/
def Server.stoppedAfter {σ : Type} (server : Server σ) (k : Nat) : Server (σ × Nat) where
  answer c s := ((server.answer c s.1).1, ((server.answer c s.1).2, s.2 + 1))
  stopping s := decide (k ≤ s.2)

theorem Server.stoppedAfter_answer {σ : Type} (server : Server σ) (k : Nat) (c : Call) (s : σ)
    (n : Nat) : (server.stoppedAfter k).answer c (s, n)
      = ((server.answer c s).1, ((server.answer c s).2, n + 1)) := rfl

theorem Server.running_answer {σ : Type} (server : Server σ) (c : Call) (s : σ) :
    server.running.answer c s = server.answer c s := rfl

/-! ## Runs that are cut -/

/-- How a run changes when shutdown is requested after so many calls. -/
inductive Cut {α : Type} (k : Nat) (full : List Exchange) (result : Except Failure α) :
    List Exchange → Except Failure α → Prop where
  /-- It does not, since nothing is modified any more. -/
  | spared (reads : ∀ x ∈ full.drop k, x.call.isRead = true) : Cut k full result full result
  /-- It ends before the next modifying call. -/
  | cut {before after : List Exchange} {x : Exchange} (split : full = before ++ x :: after)
      (late : k ≤ before.length) (modifies : x.call.isRead = false)
      (reads : ∀ y ∈ before.drop k, y.call.isRead = true) :
      Cut k full result before (.error .cancelled)

namespace Cut

variable {α : Type} {k : Nat} {full said : List Exchange} {result result' : Except Failure α}

/-- One more call comes first. If shutdown was requested before it, it only reads. -/
theorem cons {x : Exchange} (hx : k = 0 → x.call.isRead = true)
    (h : Cut (k - 1) full result said result') : Cut k (x :: full) result (x :: said) result' := by
  have hreads : ∀ {l : List Exchange}, (∀ y ∈ l.drop (k - 1), y.call.isRead = true) →
      ∀ y ∈ (x :: l).drop k, y.call.isRead = true := by
    intro l hl y hy
    cases k with
    | zero =>
      rcases List.mem_cons.mp hy with rfl | hy
      · exact hx rfl
      · exact hl y hy
    | succ k => exact hl y hy
  cases h with
  | spared reads => exact .spared (hreads reads)
  | cut split late modifies reads =>
    refine .cut (congrArg (x :: ·) split) ?_ modifies (hreads reads)
    rw [List.length_cons]
    omega

/-- What is said after shutdown was requested only reads. -/
theorem reads (h : Cut k full result said result') : ∀ x ∈ said.drop k, x.call.isRead = true := by
  cases h with
  | spared reads => exact reads
  | cut split late modifies reads => exact reads

/-- What is said is the beginning of what would have been. -/
theorem isPrefix (h : Cut k full result said result') : said <+: full := by
  cases h with
  | spared reads => exact List.prefix_refl full
  | cut split late modifies reads => exact ⟨_, split.symm⟩

/-- A run that would have modified something is ended by shutdown. -/
theorem cancelled (h : Cut k full result said result')
    (hlater : ∃ x ∈ full.drop k, x.call.isRead = false) : result' = .error .cancelled := by
  cases h with
  | spared reads =>
    obtain ⟨x, hx, hmodifies⟩ := hlater
    exact nomatch (reads x hx).symm.trans hmodifies
  | cut split late modifies reads => rfl

/-- A run with nothing left to modify goes on as if shutdown had not been requested. -/
theorem eq_full (h : Cut k full result said result')
    (hlater : ∀ x ∈ full.drop k, x.call.isRead = true) : said = full ∧ result' = result := by
  cases h with
  | spared reads => exact ⟨rfl, rfl⟩
  | @cut before after x split late modifies reads =>
    have hx : x ∈ full.drop k := by
      rw [split, List.drop_append_of_le_length late]
      exact List.mem_append_right _ List.mem_cons_self
    exact nomatch (hlater x hx).symm.trans modifies

end Cut

/-! ## Where a program asks -/

namespace Program

variable {σ α β : Type} {server : Server σ}

/-- The program asks right before each modifying call, and nowhere else, whether shutdown was
requested. If it fails on its own, it was preparing. -/
def Orderly : Program α → Prop
  | finish r => ∀ e, r = .error e → e.isPreparation = true
  | guarded (call c next) => c.isRead = false ∧ ∀ r, (next r).Orderly
  | guarded _ => False
  | call c next => c.isRead = true ∧ ∀ r, (next r).Orderly

theorem orderly_pure (a : α) : (pure a : Program α).Orderly := fun _ he => nomatch he

theorem orderly_fail {e : Failure} (h : e.isPreparation = true) :
    (fail e : Program α).Orderly := by
  intro e' he
  rw [← Except.error.inj he]
  exact h

/-- A call that reads is orderly. -/
theorem orderly_perform {c : Call} (h : c.isRead = true) : (perform c).Orderly :=
  ⟨h, fun r => orderly_pure r⟩

/-- A modifying call is orderly. -/
theorem orderly_modify {c : Call} (h : c.isRead = false) : (modify c).Orderly :=
  ⟨h, fun r => orderly_pure r⟩

/-- Two orderly steps are orderly. -/
theorem Orderly.bind {f : α → Program β} (hf : ∀ a, (f a).Orderly) :
    ∀ {p : Program α}, p.Orderly → (p >>= f).Orderly
  | finish (.ok a), _ => hf a
  | finish (.error e), h => orderly_fail (h e rfl)
  | guarded (call _ _), h => ⟨h.1, fun r => Orderly.bind hf (h.2 r)⟩
  | call _ _, h => ⟨h.1, fun r => Orderly.bind hf (h.2 r)⟩

/-- A call is made in both runs, and how it is answered does not depend on shutdown. -/
theorem cut_call {c : Call} {next : c.Reply → Program α} {k n : Nat}
    (hc : k - n = 0 → c.isRead = true)
    (hnext : ∀ r s, Cut (k - (n + 1)) ((next r).exchanges server.running s)
      ((next r).run server.running s).result ((next r).exchanges (server.stoppedAfter k) (s, n + 1))
      ((next r).run (server.stoppedAfter k) (s, n + 1)).result) (s : σ) :
    Cut (k - n) ((call c next).exchanges server.running s)
      ((call c next).run server.running s).result
      ((call c next).exchanges (server.stoppedAfter k) (s, n))
      ((call c next).run (server.stoppedAfter k) (s, n)).result := by
  simp only [exchanges, run, Server.stoppedAfter_answer, Server.running_answer]
  generalize server.answer c s = answer
  obtain ⟨reply, s'⟩ := answer
  cases reply with
  | error e => exact Cut.cons hc (.spared fun x hx => absurd hx (by simp))
  | ok r =>
    have hrest := hnext r s'
    rw [← Nat.sub_sub] at hrest
    exact Cut.cons hc hrest

/-- The first exchange of a program that starts with a call is about that call. -/
theorem exists_exchanges_call (server : Server σ) (c : Call) (next : c.Reply → Program α) (s : σ) :
    ∃ x rest, (call c next).exchanges server s = x :: rest ∧ x.call = c := by
  rw [exchanges]
  generalize server.answer c s = answer
  obtain ⟨reply, s'⟩ := answer
  cases reply with
  | error e => exact ⟨_, _, rfl, rfl⟩
  | ok r => exact ⟨_, _, rfl, rfl⟩

/-- How a run changes when shutdown is requested. By induction on the program, with any number of
calls already made. -/
theorem Orderly.cut (server : Server σ) (k : Nat) : ∀ {p : Program α}, p.Orderly →
    ∀ (s : σ) (n : Nat), Cut (k - n) (p.exchanges server.running s)
      (p.run server.running s).result (p.exchanges (server.stoppedAfter k) (s, n))
      (p.run (server.stoppedAfter k) (s, n)).result
  | finish _, _, _, _ => .spared fun x hx => absurd hx (by simp [exchanges])
  | call _ _, h, s, n =>
    cut_call (fun _ => h.1) (fun r s => Orderly.cut server k (h.2 r) s (n + 1)) s
  | guarded (call c next), h, s, n => by
    have hnot : ¬ server.running.stopping s = true := Bool.false_ne_true
    rw [exchanges, run, if_neg hnot, if_neg hnot, exchanges, run]
    by_cases hstop : (server.stoppedAfter k).stopping (s, n) = true
    · -- shutdown was requested, and the call is not made
      have hk : k ≤ n := of_decide_eq_true hstop
      obtain ⟨x, rest, hlog, hx⟩ := exists_exchanges_call server.running c next s
      rw [if_pos hstop, if_pos hstop, hlog]
      have hlate : k - n ≤ ([] : List Exchange).length := by
        rw [List.length_nil]
        omega
      exact Cut.cut rfl hlate (hx ▸ h.1) fun y hy => absurd hy (by simp)
    · have hk : ¬ k ≤ n := fun hk => hstop (decide_eq_true hk)
      rw [if_neg hstop, if_neg hstop]
      exact cut_call (fun h0 => absurd (Nat.le_of_sub_eq_zero h0) hk)
        (fun r s => Orderly.cut server k (h.2 r) s (n + 1)) s

/-- An orderly run that modifies nothing and fails was preparing, or could not read. By induction on
the program. -/
theorem Orderly.run_error {e : Failure} : ∀ {p : Program α}, p.Orderly → ∀ {s : σ},
    (p.run server.running s).result = .error e →
    (∀ x ∈ p.exchanges server.running s, x.call.isRead = true) →
    e.isPreparation = true ∨ ∃ x ∈ p.exchanges server.running s, x.reply = .error e
  | finish _, h, s, herror, _ => Or.inl (h e herror)
  | guarded (call c next), h, s, _, hreads => by
    have hnot : ¬ server.running.stopping s = true := Bool.false_ne_true
    rw [exchanges, if_neg hnot] at hreads
    obtain ⟨x, rest, hlog, hx⟩ := exists_exchanges_call server.running c next s
    have hread : x.call.isRead = true := hreads x (hlog ▸ List.mem_cons_self)
    rw [hx] at hread
    exact absurd (hread.symm.trans h.1) (by decide)
  | call c next, h, s, herror, hreads => by
    rw [run] at herror
    rw [exchanges] at hreads ⊢
    generalize server.running.answer c s = answer at herror hreads ⊢
    obtain ⟨reply, s'⟩ := answer
    cases reply with
    | error e' =>
      obtain rfl := Except.error.inj herror
      exact Or.inr ⟨_, List.mem_cons_self, rfl⟩
    | ok r =>
      refine (Orderly.run_error (h.2 r) herror fun x hx => hreads x (.tail _ hx)).imp_right ?_
      intro hfailed
      obtain ⟨x, hx, he⟩ := hfailed
      exact ⟨x, List.mem_cons_of_mem _ hx, he⟩

end Program

/-! ## The cycles are orderly -/

open Program (Orderly)

/-- A pod that cannot be built is a failure of preparing. -/
theorem buildPod_error {i : Instance} {t : Template} {e : Failure} (h : buildPod i t = .error e) :
    e.isPreparation = true := by
  rcases buildPod_cases i t with ⟨-, hrefused⟩ | ⟨-, ⟨pod, hpod⟩ | ⟨m, hmerge⟩⟩
  · rw [← Except.error.inj (hrefused.symm.trans h)]
    rfl
  · exact nomatch hpod.symm.trans h
  · rw [← Except.error.inj (hmerge.symm.trans h)]
    rfl

theorem orderly_namespaceOf (ns : Option String) : (namespaceOf ns).Orderly := by
  cases ns with
  | none => exact Program.orderly_fail rfl
  | some ns => exact Program.orderly_pure ns

theorem orderly_resolveTemplate (ns name : String) : (resolveTemplate ns name).Orderly := by
  refine Orderly.bind ?_ (Program.orderly_perform rfl)
  intro t
  cases t with
  | none => exact Program.orderly_fail rfl
  | some t => exact Program.orderly_pure t

namespace Instance

theorem orderly_validate (i : Instance) : i.validate.Orderly := by
  unfold Instance.validate
  split
  · exact Program.orderly_pure _
  · refine Orderly.bind ?_ (orderly_namespaceOf i.ns)
    intro ns
    refine Orderly.bind ?_ (orderly_resolveTemplate ns _)
    intro t
    exact Program.orderly_pure _

theorem orderly_requestPod (i : Instance) : i.requestPod.Orderly := by
  refine Orderly.bind ?_ ?_
  · intro pod
    split
    · exact Program.orderly_pure _
    · exact Program.orderly_fail rfl
  · refine Orderly.bind ?_ (orderly_namespaceOf i.ns)
    intro ns
    refine Orderly.bind ?_ (orderly_resolveTemplate ns _)
    intro t e he
    exact buildPod_error he

end Instance

theorem orderly_discoverPods : ∀ refs : List ManagedRef, (discoverPods refs).Orderly
  | [] => Program.orderly_pure []
  | r :: rest => by
    refine Orderly.bind ?_ (Program.orderly_perform rfl)
    intro pod
    refine Orderly.bind ?_ (orderly_discoverPods rest)
    intro pods
    exact Program.orderly_pure _

theorem orderly_deletePods (ns : String) : ∀ names : List String, (deletePods ns names).Orderly
  | [] => Program.orderly_pure ()
  | _ :: rest => Orderly.bind (fun _ => orderly_deletePods ns rest) (Program.orderly_modify rfl)

/-- Creating a pod is orderly. -/
theorem orderly_createInstancePod (i : Instance) (ns : String) :
    (createInstancePod i ns).Orderly := by
  refine Orderly.bind ?_ i.orderly_validate
  intro report
  split
  · refine Orderly.bind ?_ i.orderly_requestPod
    intro pod
    have hcreate : (Program.modify (.createPod ns pod)).Orderly := Program.orderly_modify rfl
    exact hcreate.bind fun created => Program.orderly_pure _
  · exact Program.orderly_pure _

/-- Bringing the pods down to one is orderly. -/
theorem orderly_convergePods (i : Instance) (ns : String) (backoff : Nat) :
    ∀ pods : List ApiPod, (convergePods i ns backoff pods).Orderly
  | [] => orderly_createInstancePod i ns
  | [p] => by
    rw [convergePods_singleton]
    exact Program.orderly_pure _
  | _ :: _ :: _ => (orderly_deletePods ns _).bind fun _ => Program.orderly_pure _

/-- The cycle of an instance is orderly. -/
theorem Instance.orderly_reconcile (i : Instance) (config : OperatorConfig) (now : Instant) :
    (i.reconcile config now).Orderly := by
  refine Orderly.bind ?_ (orderly_namespaceOf i.ns)
  intro ns
  refine Orderly.bind ?_ (orderly_discoverPods _)
  intro pods
  refine Orderly.bind ?_ (orderly_convergePods i ns _ pods)
  intro progress
  have hpatch : (Program.modify (.patchStatus ns i.name
      ((i.status.getD {}).next ns progress now))).Orderly := Program.orderly_modify rfl
  exact hpatch.bind fun _ => Program.orderly_pure _

theorem orderly_publishArtifacts (ns name : String) (owner : Option OwnerReference) (t : Template) :
    ∀ kinds : List ArtifactKind, (publishArtifacts ns name owner t kinds).Orderly
  | [] => Program.orderly_pure []
  | kind :: kinds => by
    have hfirst : (publishArtifact ns name owner t kind).Orderly := by
      unfold publishArtifact
      split
      · exact Orderly.bind (fun _ => Program.orderly_pure _) (Program.orderly_modify rfl)
      · exact Orderly.bind (fun _ => Program.orderly_pure _) (Program.orderly_modify rfl)
    refine Orderly.bind ?_ hfirst
    intro r
    refine Orderly.bind ?_ (orderly_publishArtifacts ns name owner t kinds)
    intro refs
    exact Program.orderly_pure _

/-- The cycle of a template is orderly. -/
theorem Template.orderly_reconcile (t : Template) (now : Instant) : (t.reconcile now).Orderly := by
  have hpatch : ∀ ns st, (do
      let _ ← Program.modify (.patchTemplateStatus ns t.name st)
      return Action.awaitChange : Program Action).Orderly :=
    fun ns st => Orderly.bind (fun _ => Program.orderly_pure _) (Program.orderly_modify rfl)
  refine Orderly.bind ?_ (orderly_namespaceOf t.ns)
  intro ns
  dsimp only
  split
  · exact hpatch ns _
  · refine Orderly.bind ?_ (orderly_publishArtifacts ns _ _ _ _)
    intro refs
    exact hpatch ns _

/-! ## Any cycle -/

/-- A cycle of an instance or of a template. -/
inductive Cycle where
  | ofInstance (i : Instance) (config : OperatorConfig) (now : Instant)
  | ofTemplate (t : Template) (now : Instant)

namespace Cycle

/-- What the operator does in the cycle. -/
def program : Cycle → Program Action
  | ofInstance i config now => i.reconcile config now
  | ofTemplate t now => t.reconcile now

/-- Every cycle is orderly. -/
theorem orderly (cycle : Cycle) : cycle.program.Orderly := by
  cases cycle with
  | ofInstance i config now => exact i.orderly_reconcile config now
  | ofTemplate t now => exact t.orderly_reconcile now

variable {σ : Type} {server : Server σ}

/-- A cycle that succeeds has at least written a status. -/
theorem exists_modifies {cycle : Cycle} {s : σ} {action : Action}
    (hok : (cycle.program.run server s).result = .ok action) :
    ∃ x ∈ cycle.program.exchanges server s, x.call.isRead = false := by
  cases cycle with
  | ofInstance i config now =>
    obtain ⟨ns, pods, progress, s', before, -, -, hlog, -⟩ := Instance.reconcile_ok hok
    exact ⟨_, hlog ▸ List.mem_append_right _ (List.mem_singleton_self _), rfl⟩
  | ofTemplate t now =>
    obtain ⟨ns, hns⟩ := Template.exists_ns_of_ok hok
    have hlog := Template.reconcile_ok hns hok
    exact ⟨_, hlog ▸ List.mem_append_right _ (List.mem_singleton_self _), rfl⟩

/-- Shutdown is requested once a cycle has made so many calls. -/
theorem run_stopped (cycle : Cycle) (server : Server σ) (s : σ) (k : Nat) :
    let full := cycle.program.exchanges server.running s
    let said := cycle.program.exchanges (server.stoppedAfter k) (s, 0)
    let result := (cycle.program.run (server.stoppedAfter k) (s, 0)).result
    -- nothing is modified after that, and until then nothing changes
    (∀ x ∈ said.drop k, x.call.isRead = true) ∧ said <+: full
    -- a cycle that would have modified something is ended by it
    ∧ ((∃ x ∈ full.drop k, x.call.isRead = false) → result = .error .cancelled)
    -- the cycle goes on as before if its last modifying call was made already; else it fails, be it
    -- that it was preparing, or that it could not read
    ∧ ((∃ x ∈ full.take k, x.call.isRead = false) ∧ (∀ x ∈ full.drop k, x.call.isRead = true)
        ∧ said = full ∧ result = (cycle.program.run server.running s).result
      ∨ ∃ e, result = .error e ∧ (e = .cancelled ∨ (∀ x ∈ said, x.call.isRead = true)
          ∧ (e.isPreparation = true ∨ ∃ x ∈ said, x.reply = .error e))) := by
  intro full said result
  have hcut : Cut k full (cycle.program.run server.running s).result said result :=
    cycle.orderly.cut server k s 0
  refine ⟨hcut.reads, hcut.isPrefix, hcut.cancelled, ?_⟩
  by_cases hlater : ∃ x ∈ full.drop k, x.call.isRead = false
  · exact Or.inr ⟨.cancelled, hcut.cancelled hlater, Or.inl rfl⟩
  · have hreads : ∀ x ∈ full.drop k, x.call.isRead = true := by
      intro x hx
      exact eq_true_of_ne_false fun hmodifies => hlater ⟨x, hx, hmodifies⟩
    obtain ⟨hsaid, hresult⟩ := hcut.eq_full hreads
    by_cases hbefore : ∃ x ∈ full.take k, x.call.isRead = false
    · exact Or.inl ⟨hbefore, hreads, hsaid, hresult⟩
    · -- nothing was modified at all, so the cycle did not succeed
      have hall : ∀ x ∈ full, x.call.isRead = true := by
        intro x hx
        rw [← List.take_append_drop k full] at hx
        rcases List.mem_append.mp hx with hx | hx
        · exact eq_true_of_ne_false fun hmodifies => hbefore ⟨x, hx, hmodifies⟩
        · exact hreads x hx
      cases hfull : (cycle.program.run server.running s).result with
      | ok action =>
        obtain ⟨x, hx, hmodifies⟩ := exists_modifies hfull
        exact nomatch (hall x hx).symm.trans hmodifies
      | error e =>
        rw [hsaid]
        exact Or.inr ⟨e, hresult.trans hfull, Or.inr ⟨hall, cycle.orderly.run_error hfull hall⟩⟩

end Cycle

end BuildFleet
