import BuildFleet.Operator.Program

/-!
# Reasoning about programs

A program is taken apart where it is put together: what runs after a first part starts from the
state that the first part left (`run_bind`). `Ensures` states what holds at the end of a run, of the
result and of the state, and has one rule for each way of building a program. A failure ends a
program at once, so a postcondition has to hold wherever a part may fail.

> `Ensures.bind`: parts one after the other;
> `ensures_modify`: a modifying call, which is not made at all once shutdown was requested.

Most of a cycle only looks things up. `ReadsOnly` tells so from the program alone, whatever the
server answers.
-/

namespace BuildFleet.Program

variable {σ α β : Type} {server : Server σ}

/-- A program that goes on after another one runs from the state that it left. By induction on the
first program. -/
theorem run_bind (server : Server σ) (f : α → Program β) : ∀ (p : Program α) (s : σ),
    (p >>= f).run server s =
      match (p.run server s).result with
      | .error e => ⟨.error e, (p.run server s).calls, (p.run server s).state⟩
      | .ok a =>
        let rest := (f a).run server (p.run server s).state
        ⟨rest.result, (p.run server s).calls ++ rest.calls, rest.state⟩
  | finish (.ok _), _ => rfl
  | finish (.error _), _ => rfl
  | guarded next, s => by
    have hbind : guarded next >>= f = guarded (next >>= f) := rfl
    rw [hbind, run, run]
    by_cases hstop : server.stopping s = true
    · rw [if_pos hstop, if_pos hstop]
    · rw [if_neg hstop, if_neg hstop, run_bind server f next s]
  | call c next, s => by
    have hbind : call c next >>= f = call c fun r => next r >>= f := rfl
    rw [hbind, run, run]
    generalize server.answer c s = answer
    obtain ⟨reply, s'⟩ := answer
    cases reply with
    | error e => rfl
    | ok r =>
      dsimp only
      rw [run_bind server f (next r) s']
      cases ((next r).run server s').result with
      | error e => rfl
      | ok a => rfl

/-! ## Before and after -/

/-- From a state where `pre` holds, the program ends with a result of which `done` holds, or with a
failure of which `failed` holds, together with the state that is left. -/
def Ensures (server : Server σ) (p : Program α) (pre : σ → Prop) (done : α → σ → Prop)
    (failed : Failure → σ → Prop) : Prop :=
  ∀ s, pre s → match (p.run server s).result with
    | .ok a => done a (p.run server s).state
    | .error e => failed e (p.run server s).state

section Rules

variable {pre : σ → Prop} {done : α → σ → Prop} {failed : Failure → σ → Prop}

/-- What calls nothing ensures what holds from the start. -/
theorem ensures_pure {a : α} (h : ∀ s, pre s → done a s) :
    (pure a : Program α).Ensures server pre done failed := h

/-- What fails at once ensures what holds from the start. -/
theorem ensures_fail {e : Failure} (h : ∀ s, pre s → failed e s) :
    (fail e : Program α).Ensures server pre done failed := h

/-- What is known apart from the state may be used throughout. -/
theorem ensures_of_imp {p : Program α} {known : Prop}
    (h : known → p.Ensures server pre done failed) :
    p.Ensures server (fun s => pre s ∧ known) done failed :=
  fun s hs => h hs.2 s hs.1

/-- More is known before. -/
theorem Ensures.of_imp {p : Program α} {pre' : σ → Prop}
    (hp : p.Ensures server pre done failed) (hpre : ∀ s, pre' s → pre s) :
    p.Ensures server pre' done failed :=
  fun s hs => hp s (hpre s hs)

/-- It is enough to start from any one state. -/
theorem ensures_of_state {p : Program α}
    (h : ∀ s, pre s → p.Ensures server (fun s' => s' = s) done failed) :
    p.Ensures server pre done failed :=
  fun s hs => h s hs s rfl

/-- A failure of the first part is one of the whole. -/
theorem Ensures.bind {p : Program β} {f : β → Program α} {mid : β → σ → Prop}
    (hp : p.Ensures server pre mid failed) (hf : ∀ b, (f b).Ensures server (mid b) done failed) :
    (p >>= f).Ensures server pre done failed := by
  intro s hs
  have hmid := hp s hs
  rw [run_bind]
  generalize p.run server s = first at hmid ⊢
  obtain ⟨result, calls, s'⟩ := first
  cases result with
  | error e => exact hmid
  | ok b => exact hf b s' hmid

/-- A weaker conclusion. -/
theorem Ensures.mono {p : Program α} {done' : α → σ → Prop} {failed' : Failure → σ → Prop}
    (hp : p.Ensures server pre done' failed') (hdone : ∀ a s, done' a s → done a s)
    (hfailed : ∀ e s, failed' e s → failed e s) : p.Ensures server pre done failed := by
  intro s hs
  have hpost := hp s hs
  generalize p.run server s = last at hpost ⊢
  obtain ⟨result, calls, s'⟩ := last
  cases result with
  | error e => exact hfailed e s' hpost
  | ok a => exact hdone a s' hpost

/-- A call ends with whatever the server answers. -/
theorem ensures_perform {c : Call} {done : c.Reply → σ → Prop}
    (h : ∀ s, pre s → match (server.answer c s).1 with
      | .ok r => done r (server.answer c s).2
      | .error e => failed e (server.answer c s).2) :
    (perform c).Ensures server pre done failed := by
  intro s hs
  have hpost := h s hs
  unfold perform
  rw [run]
  generalize server.answer c s = answer at hpost ⊢
  obtain ⟨reply, s'⟩ := answer
  cases reply with
  | error e => exact hpost
  | ok r => exact hpost

/-- Nothing goes on once shutdown was requested. -/
theorem ensures_guarded {p : Program α} (hstop : ∀ s, pre s → failed .cancelled s)
    (hp : p.Ensures server pre done failed) : (guarded p).Ensures server pre done failed := by
  intro s hs
  rw [run]
  by_cases hstopping : server.stopping s = true
  · rw [if_pos hstopping]
    exact hstop s hs
  · rw [if_neg hstopping]
    exact hp s hs

/-- A modifying call fails before it is made if shutdown was requested. -/
theorem ensures_modify {c : Call} {done : c.Reply → σ → Prop}
    (hstop : ∀ s, pre s → failed .cancelled s)
    (h : ∀ s, pre s → match (server.answer c s).1 with
      | .ok r => done r (server.answer c s).2
      | .error e => failed e (server.answer c s).2) :
    (modify c).Ensures server pre done failed :=
  ensures_guarded hstop (ensures_perform h)

end Rules

/-! ## Programs that only look things up -/

/-- All calls of the program only read. -/
def ReadsOnly : Program α → Prop
  | finish _ => True
  | guarded next => next.ReadsOnly
  | call c next => c.isRead = true ∧ ∀ r, (next r).ReadsOnly

/-- Two steps that only read do so in turn. -/
theorem ReadsOnly.bind {f : α → Program β} (hf : ∀ a, (f a).ReadsOnly) :
    ∀ {p : Program α}, p.ReadsOnly → (p >>= f).ReadsOnly
  | finish (.ok a), _ => hf a
  | finish (.error _), _ => trivial
  | guarded next, h => ReadsOnly.bind hf (p := next) h
  | call _ _, h => ⟨h.1, fun r => ReadsOnly.bind hf (h.2 r)⟩

/-- A call that reads only reads. -/
theorem readsOnly_perform {c : Call} (h : c.isRead = true) : (perform c).ReadsOnly :=
  ⟨h, fun _ => trivial⟩

/-- What every reading call keeps, a program that only reads keeps. By induction on the program. -/
theorem ReadsOnly.run_state {I : σ → Prop}
    (hread : ∀ c s, c.isRead = true → I s → I (server.answer c s).2) :
    ∀ {p : Program α}, p.ReadsOnly → ∀ s, I s → I (p.run server s).state
  | finish _, _, _, hs => hs
  | guarded next, h, s, hs => by
    rw [run]
    split
    · exact hs
    · exact ReadsOnly.run_state hread (p := next) h s hs
  | call c next, h, s, hs => by
    have hcall := hread c s h.1 hs
    rw [run]
    generalize server.answer c s = answer at hcall ⊢
    obtain ⟨reply, s'⟩ := answer
    cases reply with
    | error e => exact hcall
    | ok r => exact ReadsOnly.run_state hread (h.2 r) s' hcall

/-- What only reads keeps all that reading keeps. -/
theorem ReadsOnly.ensures_invariant {I : σ → Prop}
    (hread : ∀ c s, c.isRead = true → I s → I (server.answer c s).2) {p : Program α}
    (hp : p.ReadsOnly) : p.Ensures server I (fun _ s => I s) (fun _ s => I s) := by
  intro s hs
  have hstate := hp.run_state hread s hs
  split
  · exact hstate
  · exact hstate

/-- What no reading call changes stays as it was. -/
theorem ReadsOnly.ensures {τ : Type} {view : σ → τ}
    (hview : ∀ c s, c.isRead = true → view (server.answer c s).2 = view s) {p : Program α}
    (hp : p.ReadsOnly) (v : τ) :
    p.Ensures server (fun s => view s = v) (fun _ s => view s = v) (fun _ s => view s = v) :=
  hp.ensures_invariant fun c s hc hs => (hview c s hc).trans hs

end BuildFleet.Program
