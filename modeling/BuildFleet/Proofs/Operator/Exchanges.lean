import BuildFleet.Proofs.Operator.Execution

/-!
# What is said during a run

A run lists the calls that were made. Its exchanges tell as well how each of them was answered. They
are what a server would have written down that keeps a log (`Server.logged`), and keeping one
changes nothing else:

> `run_logged`: with a log, a run ends as it does without one, and the log tells its exchanges.

So what holds of a state together with all that was said before is shown by the rules for `Ensures`,
on the server that keeps the log.

What a program `Yields` it yields unless a call fails or shutdown is requested: it does not fail on
its own. What it relies on of the replies is part of that, so the exchanges of a run tell whether it
ends with a result (`Yields.run`).
-/

namespace BuildFleet

/-- A call and how it was answered. -/
structure Exchange where
  /-- The call. -/
  call : Call
  /-- The answer. -/
  reply : Except Failure call.Reply

/-- The server with a log of the exchanges. -/
def Server.logged {σ : Type} (server : Server σ) : Server (σ × List Exchange) where
  answer c s :=
    let (reply, s') := server.answer c s.1
    (reply, (s', s.2 ++ [⟨c, reply⟩]))
  stopping s := server.stopping s.1

theorem Server.logged_answer {σ : Type} (server : Server σ) (c : Call) (s : σ)
    (log : List Exchange) : server.logged.answer c (s, log)
      = ((server.answer c s).1, ((server.answer c s).2, log ++ [⟨c, (server.answer c s).1⟩])) := rfl

namespace Program

variable {σ α β : Type} {server : Server σ}

/-- The exchanges of a run, in order. -/
def exchanges (server : Server σ) : Program α → σ → List Exchange
  | finish _, _ => []
  | guarded next, s => if server.stopping s then [] else next.exchanges server s
  | call c next, s =>
    match server.answer c s with
    | (.error e, _) => [⟨c, .error e⟩]
    | (.ok reply, s) => ⟨c, .ok reply⟩ :: (next reply).exchanges server s

/-- The exchanges are about the calls that were made. -/
theorem map_call_exchanges (server : Server σ) : ∀ (p : Program α) (s : σ),
    (p.exchanges server s).map Exchange.call = (p.run server s).calls
  | finish _, _ => rfl
  | guarded next, s => by
    rw [exchanges, run]
    split
    · rfl
    · exact map_call_exchanges server next s
  | call c next, s => by
    rw [exchanges, run]
    generalize server.answer c s = answer
    obtain ⟨reply, s'⟩ := answer
    cases reply with
    | error e => rfl
    | ok r => exact congrArg (c :: ·) (map_call_exchanges server (next r) s')

/-- Keeping a log only adds the exchanges to it. By induction on the program. -/
theorem run_logged (server : Server σ) : ∀ (p : Program α) (s : σ) (log : List Exchange),
    p.run server.logged (s, log) = ⟨(p.run server s).result, (p.run server s).calls,
      ((p.run server s).state, log ++ p.exchanges server s)⟩
  | finish _, _, log => by
    rw [run, run, exchanges, List.append_nil]
  | guarded next, s, log => by
    rw [run, run, exchanges]
    by_cases hstop : server.stopping s = true
    · rw [if_pos (show server.logged.stopping (s, log) = true from hstop), if_pos hstop,
        if_pos hstop, List.append_nil]
    · rw [if_neg (show ¬ server.logged.stopping (s, log) = true from hstop), if_neg hstop,
        if_neg hstop, run_logged server next s log]
  | call c next, s, log => by
    rw [run, run, exchanges, Server.logged_answer]
    generalize server.answer c s = answer
    obtain ⟨reply, s'⟩ := answer
    cases reply with
    | error e => rfl
    | ok r =>
      dsimp only
      rw [run_logged server (next r) s', List.append_assoc, List.singleton_append]

/-- What is ensured of a run with a log holds of the exchanges without one. -/
theorem Ensures.exchanges {p : Program α} {pre : σ × List Exchange → Prop}
    {done : α → σ × List Exchange → Prop} {failed : Failure → σ × List Exchange → Prop}
    (hp : p.Ensures server.logged pre done failed) (s : σ) (hs : pre (s, [])) :
    match (p.run server s).result with
    | .ok a => done a ((p.run server s).state, p.exchanges server s)
    | .error e => failed e ((p.run server s).state, p.exchanges server s) := by
  have hpost := hp (s, []) hs
  rw [run_logged, List.nil_append] at hpost
  exact hpost

/-- What the exchanges of a run keep, one by one, the run keeps. By induction on the program. -/
theorem run_keeps {I : σ → Prop} {kept : Exchange → Prop}
    (hstep : ∀ c s, kept ⟨c, (server.answer c s).1⟩ → I s → I (server.answer c s).2) :
    ∀ (p : Program α) (s : σ), (∀ x ∈ p.exchanges server s, kept x) → I s →
      I (p.run server s).state
  | finish _, _, _, hs => hs
  | guarded next, s, hx, hs => by
    rw [exchanges] at hx
    rw [run]
    by_cases hstop : server.stopping s = true
    · rw [if_pos hstop]
      exact hs
    · rw [if_neg hstop] at hx ⊢
      exact run_keeps hstep next s hx hs
  | call c next, s, hx, hs => by
    have hcall := hstep c s
    rw [exchanges] at hx
    rw [run]
    generalize server.answer c s = answer at hx hcall ⊢
    obtain ⟨reply, s'⟩ := answer
    cases reply with
    | error e => exact hcall (hx _ (List.mem_singleton_self _)) hs
    | ok r =>
      refine run_keeps hstep (next r) s' (fun x hmem => hx x (List.mem_cons_of_mem _ hmem)) ?_
      exact hcall (hx _ List.mem_cons_self) hs

/-- Where all calls succeed, what a state holds is what the calls make of it, one after the other.
By induction on the program. -/
theorem run_folds {τ : Type} {view : σ → τ} {effect : Call → τ → τ}
    (hdone : ∀ c s reply, (server.answer c s).1 = .ok reply →
      view (server.answer c s).2 = effect c (view s)) :
    ∀ (p : Program α) (s : σ), (∀ x ∈ p.exchanges server s, ∃ r, x.reply = .ok r) →
      view (p.run server s).state
        = (p.exchanges server s).foldl (fun v x => effect x.call v) (view s)
  | finish _, _, _ => rfl
  | guarded next, s, hx => by
    rw [exchanges] at hx ⊢
    rw [run]
    by_cases hstop : server.stopping s = true
    · rw [if_pos hstop, if_pos hstop]
      rfl
    · rw [if_neg hstop] at hx ⊢
      rw [if_neg hstop]
      exact run_folds hdone next s hx
  | call c next, s, hx => by
    have hcall := hdone c s
    rw [exchanges] at hx ⊢
    rw [run]
    generalize server.answer c s = answer at hx hcall ⊢
    obtain ⟨reply, s'⟩ := answer
    cases reply with
    | error e =>
      obtain ⟨r, hr⟩ := hx _ List.mem_cons_self
      cases hr
    | ok r =>
      dsimp only
      rw [List.foldl_cons, ← hcall r rfl]
      exact run_folds hdone (next r) s' fun x hmem => hx x (List.mem_cons_of_mem _ hmem)

/-! ## Programs that do not fail on their own -/

/-- As long as shutdown is not requested and calls are answered as given, the program ends with a
result, and `holds` of it. -/
def Yields (answered : (c : Call) → c.Reply → Prop) (holds : α → Prop) : Program α → Prop
  | finish r => ∃ a, r = .ok a ∧ holds a
  | guarded next => next.Yields answered holds
  | call c next => ∀ r, answered c r → (next r).Yields answered holds

section

variable {answered : (c : Call) → c.Reply → Prop} {holds : α → Prop}

/-- What calls nothing yields its result. -/
theorem yields_pure {a : α} (h : holds a) : (pure a : Program α).Yields answered holds :=
  ⟨a, rfl, h⟩

/-- A call gives what it is answered. -/
theorem yields_perform (c : Call) : (perform c).Yields answered (answered c) :=
  fun r hr => ⟨r, rfl, hr⟩

/-- A modifying call yields what it is answered. -/
theorem yields_modify (c : Call) : (modify c).Yields answered (answered c) := yields_perform c

/-- The second program is only asked about results that the first one can have. -/
theorem Yields.bind {f : α → Program β} {holds' : β → Prop}
    (hf : ∀ a, holds a → (f a).Yields answered holds') :
    ∀ {p : Program α}, p.Yields answered holds → (p >>= f).Yields answered holds'
  | finish _, ⟨a, rfl, ha⟩ => hf a ha
  | guarded next, h => Yields.bind hf (p := next) h
  | call _ _, h => fun r hr => Yields.bind hf (h r hr)

/-- The result of a run, unless a call was not answered as given or shutdown was requested. By
induction on the program. -/
theorem Yields.run (server : Server σ) {p : Program α} (h : p.Yields answered holds) (s : σ)
    (hx : ∀ x ∈ p.exchanges server s, ∃ r, x.reply = .ok r ∧ answered x.call r)
    (hrun : server.stopping (p.run server s).state = false) :
    ∃ a, (p.run server s).result = .ok a ∧ holds a := by
  induction p generalizing s with
  | finish r => exact h
  | guarded next ih =>
    rw [exchanges] at hx
    rw [Program.run] at hrun ⊢
    by_cases hstop : server.stopping s = true
    · rw [if_pos hstop] at hrun
      exact absurd (hstop.symm.trans hrun) (Ne.symm Bool.false_ne_true)
    · rw [if_neg hstop] at hx hrun ⊢
      exact ih h s hx hrun
  | call c next ih =>
    rw [exchanges] at hx
    rw [Program.run] at hrun ⊢
    generalize server.answer c s = answer at hx hrun ⊢
    obtain ⟨reply, s'⟩ := answer
    cases reply with
    | error e =>
      obtain ⟨r, hr, -⟩ := hx _ List.mem_cons_self
      cases hr
    | ok r =>
      obtain ⟨r', hr, hanswered⟩ := hx _ List.mem_cons_self
      have hr' : r = r' := Except.ok.inj hr
      exact ih r (h r (hr' ▸ hanswered)) s'
        (fun x hmem => hx x (List.mem_cons_of_mem _ hmem)) hrun

end

end BuildFleet.Program
