import BuildFleet.Operator.Simulation
import BuildFleet.Proofs.Operator.Contract

/-!
# The simulation keeps the contract

The simulated cluster does about an instance what `Serves` and `Keeps` ask of a server, with
whatever faults and at whatever moment shutdown is requested, in every state where the instance is
there and pods are stored under their own names (`Simulation.Tidy`). As in the API itself, a name
that is taken is refused for a new pod (`Simulation.accept`).

> `Simulation.serves`, `Simulation.keeps`: the contracts for any one instance.

Look-ups tell what there is, too (`Simulation.shows`).

ConfigMaps are kept as `StoresConfigMaps` asks for wherever calls reach the cluster as they are
(`Simulation.storesConfigMaps`).
-/

namespace BuildFleet

/-! ## Stores -/

namespace Store

variable {α : Type}

/-- Where the objects are. -/
def keys (s : Store α) : List ObjectKey := s.map (·.1)

/-- What is found under a key is listed there. -/
theorem mem_of_get? {s : Store α} {key : ObjectKey} {v : α} (h : get? s key = some v) :
    (key, v) ∈ s := by
  obtain ⟨e, hfind, rfl⟩ := Option.map_eq_some_iff.mp h
  have hbeq := List.find?_some hfind
  have hkey : e.1 = key := beq_iff_eq.mp hbeq
  exact hkey ▸ List.mem_of_find?_eq_some hfind

/-- An object is found under a key exactly if it is among the keys, and then it is listed there. -/
theorem get?_of_mem_keys {s : Store α} {key : ObjectKey} (h : key ∈ keys s) :
    ∃ v, get? s key = some v ∧ (key, v) ∈ s := by
  cases hget : get? s key with
  | none =>
    obtain ⟨e, he, hkey⟩ := List.mem_map.mp h
    have hne := List.find?_eq_none.mp (Option.map_eq_none_iff.mp hget) e he
    exact absurd (beq_iff_eq.mpr hkey) hne
  | some v => exact ⟨v, rfl, mem_of_get? hget⟩

/-- What is put under a new key comes last. -/
theorem keys_put {s : Store α} {key : ObjectKey} (h : key ∉ keys s) (v : α) :
    keys (put s key v) = keys s ++ [key] := by
  have herase : erase s key = s := by
    refine List.filter_eq_self.mpr ?_
    intro e he
    refine bne_iff_ne.mpr ?_
    intro hkey
    exact h (List.mem_map.mpr ⟨e, he, hkey⟩)
  unfold put keys
  rw [herase, List.map_append]
  rfl

/-- Nothing is found under a key that is not among the keys. -/
theorem get?_of_not_mem_keys {s : Store α} {key : ObjectKey} (h : key ∉ keys s) :
    get? s key = none := by
  have hfind : s.find? (fun e => e.1 == key) = none := by
    refine List.find?_eq_none.mpr ?_
    intro e he hbeq
    exact h (List.mem_map.mpr ⟨e, he, beq_iff_eq.mp hbeq⟩)
  unfold get?
  rw [hfind]
  rfl

/-- What is erased is no longer among the keys, and all else is. -/
theorem keys_erase (s : Store α) (key : ObjectKey) :
    keys (erase s key) = (keys s).filter fun k => k ∉ [key] := by
  unfold keys erase
  rw [List.filter_map]
  refine congrArg _ (List.filter_congr ?_)
  intro e _
  show (e.1 != key) = decide (e.1 ∉ [key])
  rw [Bool.eq_iff_iff, bne_iff_ne, decide_eq_true_iff, List.mem_singleton]

/-- Erasing takes away what is under the key and nothing else. -/
theorem get?_erase (s : Store α) (key key' : ObjectKey) :
    get? (erase s key) key' = if key' = key then none else get? s key' := by
  unfold get? erase
  simp only [List.find?_filter, Bool.decide_and, Bool.decide_eq_true]
  by_cases hkey : key' = key
  · subst hkey
    have hnone : s.find? (fun e => e.1 != key' && e.1 == key') = none := by simp
    rw [if_pos rfl, hnone]
    rfl
  · have hsame : (fun e : ObjectKey × α => e.1 != key && e.1 == key') = fun e => e.1 == key' := by
      funext e
      by_cases he : e.1 = key'
      · simp [he, hkey]
      · simp [he]
    rw [if_neg hkey, hsame]

/-- What is put under a key is found there, and elsewhere everything is as it was. -/
theorem get?_put (s : Store α) (key key' : ObjectKey) (v : α) :
    get? (put s key v) key' = if key' = key then some v else get? s key' := by
  have herase := get?_erase s key key'
  unfold get? at herase
  unfold get? put
  rw [List.find?_append]
  by_cases hkey : key' = key
  · subst hkey
    rw [if_pos rfl] at herase ⊢
    rw [Option.map_eq_none_iff.mp herase]
    simp
  · rw [if_neg hkey] at herase ⊢
    have hlast : [(key, v)].find? (fun e => e.1 == key') = none := by simp [Ne.symm hkey]
    rw [hlast, Option.or_none, herase]

/-- What is in a store after a change was there before or was put there. -/
theorem mem_put {s : Store α} {key : ObjectKey} {v : α} {e : ObjectKey × α}
    (h : e ∈ put s key v) : e ∈ s ∨ e = (key, v) := by
  rcases List.mem_append.mp h with h | h
  · exact Or.inl (List.mem_filter.mp h).1
  · exact Or.inr (List.mem_singleton.mp h)

end Store

namespace Cluster

/-- The instance of a namespace and name. -/
def instance? (s : Cluster) (key : ObjectKey) : Option Instance :=
  s.instances.find? fun i => isAt i.metadata key.ns key.name

/-- Writing the status of an instance that is there writes it. -/
theorem instance?_setStatus {s : Cluster} {key : ObjectKey} {i : Instance}
    (h : s.instance? key = some i) (st : InstanceStatus) :
    (s.setStatus key.ns key.name st).instance? key = some { i with status := some st } := by
  -- writing a status moves no instance
  have hsame : ((fun i : Instance => isAt i.metadata key.ns key.name) ∘ fun i : Instance =>
      if isAt i.metadata key.ns key.name then { i with status := some st } else i)
      = fun i => isAt i.metadata key.ns key.name := by
    funext j
    dsimp only [Function.comp]
    split
    · rfl
    · rfl
  have hat : isAt i.metadata key.ns key.name = true := by
    have hfind := List.find?_some (p := fun i : Instance => isAt i.metadata key.ns key.name) h
    exact hfind
  unfold instance? at h ⊢
  unfold setStatus
  rw [List.find?_map, hsame, h, Option.map_some, if_pos hat]

/-- Writing the status of an instance removes none. -/
theorem isSome_instance?_setStatus {s : Cluster} {key : ObjectKey}
    (h : (s.instance? key).isSome = true) (ns name : String) (st : InstanceStatus) :
    ((s.setStatus ns name st).instance? key).isSome = true := by
  unfold instance? at h ⊢
  rw [List.find?_isSome] at h ⊢
  obtain ⟨i, hi, hat⟩ := h
  refine ⟨_, List.mem_map.mpr ⟨i, hi, rfl⟩, ?_⟩
  split
  · exact hat
  · exact hat

end Cluster

/-! ## The simulation -/

/-- A server in states that its answers do not leave. -/
def Server.restrict {σ : Type} (server : Server σ) (P : σ → Prop)
    (h : ∀ c s, P s → P (server.answer c s).2) : Server {s : σ // P s} where
  answer c s := ((server.answer c s.1).1, ⟨(server.answer c s.1).2, h c s.1 s.2⟩)
  stopping s := server.stopping s.1

namespace Simulation

/-- The states in which calls reach the cluster as they are, pods are stored under their own names,
and the instance is there. -/
structure Tidy (key : ObjectKey) (s : Simulation) : Prop where
  /-- Calls go nowhere else. -/
  direct : s.transport = .direct
  /-- A pod has the name it is stored under. -/
  named : ∀ e ∈ s.cluster.pods, e.2.name = e.1.name
  /-- The instance is there. -/
  present : (s.cluster.instance? key).isSome = true

/-- Whether the call is for a new pod whose name is taken. -/
def refuses (s : Simulation) : Call → Bool
  | .createPod ns pod =>
    decide (⟨ns, (s.cluster.nameNext pod).1.name⟩ ∈ Store.keys s.cluster.pods)
  | _ => false

/-- Answers a call unless it is refused. -/
def accept (c : Call) (s : Simulation) : Except Failure c.Reply × Simulation :=
  if s.refuses c then (.error (.api 409), s) else answer c s

/-- A call either fails and leaves the cluster as it was, or does what the cluster does. -/
theorem answer_direct {s : Simulation} (h : s.transport = .direct) (c : Call) :
    (answer c s).2.transport = .direct
      ∧ ((∃ e, (answer c s).1 = .error e) ∧ (answer c s).2.cluster = s.cluster
        ∨ (answer c s).1 = .ok (Cluster.serve c s.cluster).1
          ∧ (answer c s).2.cluster = (Cluster.serve c s.cluster).2) := by
  -- counting towards the shutdown changes nothing else
  have hcount : s.count.transport = .direct ∧ s.count.cluster = s.cluster := by
    unfold count
    split
    · exact ⟨h, rfl⟩
    · split
      · exact ⟨h, rfl⟩
      · exact ⟨h, rfl⟩
  have hanswer : answer c s = s.count.receive c.key c := by
    unfold answer
    rw [h]
  rw [hanswer]
  generalize s.count = s' at hcount ⊢
  obtain ⟨htransport, hcluster⟩ := hcount
  unfold receive
  cases Fault.take? c.kind s'.faults with
  | some taken =>
    -- the call is to fail, and does not get to the cluster
    refine ⟨htransport, Or.inl ⟨?_, hcluster⟩⟩
    show ∃ e, s'.fault taken.1 c = .error e
    unfold fault
    rw [htransport]
    cases taken.1.internal with
    | none => exact ⟨_, rfl⟩
    | some what => exact ⟨_, rfl⟩
  | none =>
    have hnot : ¬ (s'.transport ≠ .direct ∧ ¬ s'.cluster.hasTarget c.key c.kind = true) :=
      fun hne => hne.1 htransport
    dsimp only
    rw [if_neg hnot]
    refine ⟨htransport, Or.inr ⟨?_, ?_⟩⟩
    · show s'.deliver c (Cluster.serveAt c.key c s'.cluster).1 = _
      unfold deliver
      rw [htransport, hcluster]
      rfl
    · show (Cluster.serveAt c.key c s'.cluster).2 = _
      rw [hcluster]
      rfl

/-- The same of a call that may be refused. -/
theorem accept_direct {s : Simulation} (h : s.transport = .direct) (c : Call) :
    (accept c s).2.transport = .direct
      ∧ ((∃ e, (accept c s).1 = .error e) ∧ (accept c s).2.cluster = s.cluster
        ∨ s.refuses c = false ∧ (accept c s).1 = .ok (Cluster.serve c s.cluster).1
          ∧ (accept c s).2.cluster = (Cluster.serve c s.cluster).2) := by
  unfold accept
  cases hrefuses : s.refuses c with
  | true =>
    rw [if_pos rfl]
    exact ⟨h, Or.inl ⟨⟨_, rfl⟩, rfl⟩⟩
  | false =>
    rw [if_neg Bool.false_ne_true]
    obtain ⟨htransport, hor⟩ := answer_direct h c
    exact ⟨htransport, hor.imp_right fun hok => ⟨rfl, hok⟩⟩

/-- What a cluster does leaves pods under their own names and instances in place. -/
theorem tidy_serve {key : ObjectKey} {s : Cluster} (hnamed : ∀ e ∈ s.pods, e.2.name = e.1.name)
    (hpresent : (s.instance? key).isSome = true) (c : Call) :
    (∀ e ∈ (Cluster.serve c s).2.pods, e.2.name = e.1.name)
      ∧ ((Cluster.serve c s).2.instance? key).isSome = true := by
  cases c with
  | createPod ns pod =>
    refine ⟨?_, hpresent⟩
    intro e he
    rcases Store.mem_put he with h | h
    · exact hnamed e h
    · rw [h]
  | deletePod ns name =>
    refine ⟨?_, hpresent⟩
    intro e he
    exact hnamed e (List.mem_filter.mp he).1
  | patchStatus ns name status =>
    exact ⟨hnamed, Cluster.isSome_instance?_setStatus hpresent ns name status⟩
  | _ => exact ⟨hnamed, hpresent⟩

/-- A server stays tidy, whatever call it accepts. -/
theorem Tidy.accept {key : ObjectKey} (c : Call) (s : Simulation) (h : s.Tidy key) :
    (accept c s).2.Tidy key := by
  obtain ⟨hdirect, hor⟩ := accept_direct h.direct c
  obtain ⟨hnamed, hpresent⟩ := tidy_serve h.named h.present c
  rcases hor with ⟨-, hcluster⟩ | ⟨-, -, hcluster⟩
  · exact ⟨hdirect, hcluster ▸ h.named, hcluster ▸ h.present⟩
  · exact ⟨hdirect, hcluster ▸ hnamed, hcluster ▸ hpresent⟩

/-- The simulation as a server for one instance. -/
def tidyServer (key : ObjectKey) : Server {s : Simulation // s.Tidy key} :=
  Server.restrict ⟨accept, Simulation.stopping⟩ (Tidy key) fun c s h => h.accept c s

/-- What a cluster holds for an instance. -/
def holdings (key : ObjectKey) (s : {s : Simulation // s.Tidy key}) : Holdings :=
  ⟨Store.keys s.1.cluster.pods, (s.1.cluster.instance? key).bind Instance.status⟩

/-- What is held only depends on the cluster. -/
theorem holdings_congr {key : ObjectKey} {s s' : {s : Simulation // s.Tidy key}}
    (h : s'.1.cluster = s.1.cluster) : holdings key s' = holdings key s := by
  unfold holdings
  rw [h]

/-- A call that fails changes nothing. -/
theorem holdings_failed {key : ObjectKey} (c : Call) (s : {s : Simulation // s.Tidy key})
    (e : Failure) (he : ((tidyServer key).answer c s).1 = .error e) :
    holdings key ((tidyServer key).answer c s).2 = holdings key s := by
  rcases (accept_direct s.2.direct c).2 with ⟨-, hcluster⟩ | ⟨-, hok, -⟩
  · exact holdings_congr hcluster
  · exact nomatch he.symm.trans hok

/-- The simulation carries out the calls that succeed. -/
theorem serves (key : ObjectKey) : Serves (tidyServer key) (holdings key) key := by
  refine ⟨?_, fun c s e he => Or.inl (holdings_failed c s e he)⟩
  intro c s reply hreply
  rcases (accept_direct s.2.direct c).2 with ⟨⟨e, he⟩, -⟩ | ⟨hrefuses, hok, hcluster⟩
  · exact nomatch hreply.symm.trans he
  · -- what is held afterwards is read off the cluster that the call leaves
    have hview : holdings key ((tidyServer key).answer c s).2
        = ⟨Store.keys (Cluster.serve c s.1.cluster).2.pods,
          ((Cluster.serve c s.1.cluster).2.instance? key).bind Instance.status⟩ := by
      show Holdings.mk (Store.keys (accept c s.1).2.cluster.pods)
        (((accept c s.1).2.cluster.instance? key).bind Instance.status) = _
      rw [hcluster]
    have hreply' : reply = (Cluster.serve c s.1.cluster).1 :=
      Except.ok.inj (hreply.symm.trans hok)
    rw [hview, hreply']
    cases c with
    | getPod ns name =>
      refine ⟨rfl, ?_⟩
      show (Store.get? s.1.cluster.pods ⟨ns, name⟩).map ApiPod.name
        = if ⟨ns, name⟩ ∈ Store.keys s.1.cluster.pods then some name else none
      by_cases hin : ⟨ns, name⟩ ∈ Store.keys s.1.cluster.pods
      · obtain ⟨p, hget, hmem⟩ := Store.get?_of_mem_keys hin
        rw [if_pos hin, hget, Option.map_some, s.2.named _ hmem]
      · rw [if_neg hin, Store.get?_of_not_mem_keys hin, Option.map_none]
    | createPod ns pod =>
      have hnew : (⟨ns, (s.1.cluster.nameNext pod).1.name⟩ : ObjectKey)
          ∉ Store.keys s.1.cluster.pods := of_decide_eq_false hrefuses
      refine ⟨hnew, ?_⟩
      show Holdings.mk (Store.keys (Store.put s.1.cluster.pods
        ⟨ns, (s.1.cluster.nameNext pod).1.name⟩ (s.1.cluster.nameNext pod).1)) _ = _
      rw [Store.keys_put hnew]
      rfl
    | deletePod ns name =>
      show Holdings.mk (Store.keys (Store.erase s.1.cluster.pods ⟨ns, name⟩)) _ = _
      rw [Store.keys_erase]
      rfl
    | patchStatus ns name st =>
      intro hkey
      subst hkey
      obtain ⟨i, hi⟩ := Option.isSome_iff_exists.mp s.2.present
      show Holdings.mk (Store.keys s.1.cluster.pods)
        (((s.1.cluster.setStatus ns name st).instance? ⟨ns, name⟩).bind Instance.status) = _
      rw [Cluster.instance?_setStatus hi]
      rfl
    | _ => rfl

/-- The simulation does what is relied on. -/
theorem keeps (key : ObjectKey) : Keeps (tidyServer key) (holdings key) key :=
  (serves key).keeps holdings_failed

/-! ## Look-ups -/

/-- What there is to look up in a cluster. -/
def lookups {key : ObjectKey} (s : {s : Simulation // s.Tidy key}) : Lookups where
  pod := Store.get? s.1.cluster.pods
  template k := s.1.cluster.template? k.ns k.name

/-- What can be looked up stays the same if pods and templates do. -/
theorem lookups_answer {key : ObjectKey} (c : Call) (s : {s : Simulation // s.Tidy key})
    (hpods : (Cluster.serve c s.1.cluster).2.pods = s.1.cluster.pods)
    (htemplates : (Cluster.serve c s.1.cluster).2.templates = s.1.cluster.templates) :
    lookups ((tidyServer key).answer c s).2 = lookups s := by
  have hsame : (accept c s.1).2.cluster.pods = s.1.cluster.pods
      ∧ (accept c s.1).2.cluster.templates = s.1.cluster.templates := by
    rcases (accept_direct s.2.direct c).2 with ⟨-, hcluster⟩ | ⟨-, -, hcluster⟩
    · rw [hcluster]
      exact ⟨rfl, rfl⟩
    · rw [hcluster]
      exact ⟨hpods, htemplates⟩
  show Lookups.mk (Store.get? (accept c s.1).2.cluster.pods)
    (fun k => (accept c s.1).2.cluster.template? k.ns k.name) = _
  unfold Cluster.template?
  rw [hsame.1, hsame.2]
  rfl

/-- The simulation tells what there is. -/
theorem shows (key : ObjectKey) : Shows (tidyServer key) lookups where
  told := by
    intro c s reply hread hreply
    rcases (accept_direct s.2.direct c).2 with ⟨⟨e, he⟩, -⟩ | ⟨-, hok, -⟩
    · exact nomatch hreply.symm.trans he
    · rw [Except.ok.inj (hreply.symm.trans hok)]
      cases c with
      | getPod ns name => rfl
      | getTemplate ns name => rfl
      | _ => exact nomatch hread
  read := by
    intro c s hread
    cases c with
    | getPod ns name => exact lookups_answer _ s rfl rfl
    | getTemplate ns name => exact lookups_answer _ s rfl rfl
    | _ => exact nomatch hread
  written := fun ns name st s => lookups_answer _ s rfl rfl
  named := fun s ns name p hp => s.2.named _ (Store.mem_of_get? hp)

/-! ## ConfigMaps -/

/-- The simulation as a server that is called as it is. -/
def directServer : Server {s : Simulation // s.transport = .direct} :=
  Server.restrict server (fun s => s.transport = .direct) fun c _ h => (answer_direct h c).1

/-- The ConfigMaps of the cluster. -/
def configMaps (s : {s : Simulation // s.transport = .direct}) : ConfigMaps :=
  Store.get? s.1.cluster.configMaps

/-- The simulation stores ConfigMaps as they are given. -/
theorem storesConfigMaps : StoresConfigMaps directServer configMaps := by
  have hserve : ∀ (c : Call) (cluster : Cluster), Store.get? (Cluster.serve c cluster).2.configMaps
      = c.onConfigMaps (Store.get? cluster.configMaps) := by
    intro c cluster
    cases c with
    | applyConfigMap c =>
      funext key
      exact (Store.get?_put _ _ _ _).trans (Function.update_apply _ _ _ _).symm
    | deleteConfigMap ns name =>
      funext key
      exact (Store.get?_erase _ _ _).trans (Function.update_apply _ _ _ _).symm
    | createPod ns pod => rfl
    | _ => rfl
  refine ⟨?_, ?_⟩
  · intro c s reply hreply
    rcases (answer_direct s.2 c).2 with ⟨⟨e, he⟩, -⟩ | ⟨-, hcluster⟩
    · exact nomatch hreply.symm.trans he
    · show Store.get? (answer c s.1).2.cluster.configMaps = _
      rw [hcluster]
      exact hserve c s.1.cluster
  · intro c s e he
    rcases (answer_direct s.2 c).2 with ⟨-, hcluster⟩ | ⟨hok, -⟩
    · refine Or.inl ?_
      show Store.get? (answer c s.1).2.cluster.configMaps = _
      rw [hcluster]
      rfl
    · exact nomatch he.symm.trans hok

end Simulation

end BuildFleet
