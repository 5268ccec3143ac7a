import BuildFleet.Proofs.Status.Conditions
import Mathlib.Data.List.Infix

/-!
# Transition times over a history

What is stored of a type is one condition, and setting another looks only at that one. All the
same, its transition time tells of everything that was set before:

> `setAll_history`: whatever the list was at first and whatever was set, in any order, the one
> condition of a type that was set is the last one, as of the first of the conditions since which
> the status has not changed.

The history of a type starts with the condition that was there first. What the list stores is
what the history comes down to (`Condenses`); one setting prolongs the final stretch of the
history or begins another (`Condenses.follow`), and conditions of other types are no part of it.
-/

namespace BuildFleet.Condition

/-- The list after conditions are set, one after the other. -/
def setAll (earlier sets : List Condition) : List Condition := sets.foldl set earlier

/-- What a type was told to be: by the first condition of the type that was there, if any, and by
those that were set. -/
def history (type : String) (earlier sets : List Condition) : List Condition :=
  (earlier.find? fun c => c.type == type).toList ++ ofType type sets

/-- The conditions have one status. -/
def Steady (stretch : List Condition) : Prop :=
  ∀ c ∈ stretch, ∀ d ∈ stretch, c.status = d.status

/-- The longest final stretch of a history throughout which the status stayed the same. -/
structure FinalStretch (history stretch : List Condition) : Prop where
  /-- The stretch is the end of the history. -/
  suffix : stretch <:+ history
  /-- The status does not change within it. -/
  steady : Steady stretch
  /-- It does change within every longer one. -/
  longest : ∀ other, other <:+ history → Steady other → other.length ≤ stretch.length

/-! ## The final stretch -/

/-- One condition is steady. -/
theorem steady_singleton (c : Condition) : Steady [c] := by
  intro d hd e he
  rw [List.mem_singleton.mp hd, List.mem_singleton.mp he]

/-- A stretch is steady if all before the last have its status. -/
theorem steady_append_singleton {stretch : List Condition} {c : Condition} :
    Steady (stretch ++ [c]) ↔ ∀ d ∈ stretch, d.status = c.status := by
  constructor
  · intro h d hd
    exact h d (List.mem_append_left _ hd) c List.mem_concat_self
  · intro h
    -- all that is in the longer stretch has the status of what was added
    have hall : ∀ d ∈ stretch ++ [c], d.status = c.status := by
      intro d hd
      rcases List.mem_append.mp hd with hd | hd
      · exact h d hd
      · rw [List.mem_singleton.mp hd]
    intro d hd e he
    rw [hall d hd, hall e he]

/-- A suffix of a history that went on is empty, or it went on from a suffix. -/
theorem suffix_append_singleton {other history : List Condition} {c : Condition}
    (h : other <:+ history ++ [c]) : other = [] ∨ ∃ before, other = before ++ [c]
      ∧ before <:+ history := by
  rcases List.suffix_concat_iff.mp h with h | ⟨before, rfl, hbefore⟩
  · exact .inl h
  · exact .inr ⟨before, rfl, hbefore⟩

namespace FinalStretch

variable {history stretch : List Condition} {c : Condition}

/-- A history has one such stretch. -/
theorem unique {other : List Condition} (h : FinalStretch history stretch)
    (hother : FinalStretch history other) : stretch = other := by
  have hlength : stretch.length = other.length :=
    Nat.le_antisymm (hother.longest stretch h.suffix h.steady)
      (h.longest other hother.suffix hother.steady)
  have hsuffix : stretch <:+ other :=
    List.suffix_of_suffix_length_le h.suffix hother.suffix (Nat.le_of_eq hlength)
  exact hsuffix.eq_of_length hlength

/-- What keeps the status prolongs the stretch. -/
theorem prolong (h : FinalStretch history stretch) (hsame : ∀ d ∈ stretch, d.status = c.status) :
    FinalStretch (history ++ [c]) (stretch ++ [c]) where
  suffix := by
    obtain ⟨before, rfl⟩ := h.suffix
    exact ⟨before, (List.append_assoc before stretch [c]).symm⟩
  steady := steady_append_singleton.mpr hsame
  longest := by
    intro other hother hsteady
    rcases suffix_append_singleton hother with rfl | ⟨before, rfl, hbefore⟩
    · exact Nat.zero_le _
    · have hall : ∀ d ∈ before, d.status = c.status := steady_append_singleton.mp hsteady
      have hshort : before.length ≤ stretch.length :=
        h.longest before hbefore fun d hd e he => (hall d hd).trans (hall e he).symm
      simpa using hshort

/-- What changes the status, or comes first, begins a stretch. -/
theorem begin (hchanged : ∀ d ∈ history.getLast?, d.status ≠ c.status) :
    FinalStretch (history ++ [c]) [c] where
  suffix := List.suffix_append history [c]
  steady := steady_singleton c
  longest := by
    intro other hother hsteady
    rcases suffix_append_singleton hother with rfl | ⟨before, rfl, hbefore⟩
    · exact Nat.zero_le _
    · -- a longer one would hold what was last before
      have hnone : before = [] := by
        rcases List.eq_nil_or_concat' before with hnil | ⟨rest, d, rfl⟩
        · exact hnil
        · obtain ⟨start, rfl⟩ := hbefore
          have hlast : d ∈ (start ++ (rest ++ [d])).getLast? := by
            rw [← List.append_assoc, List.getLast?_concat]
            exact rfl
          exact absurd (steady_append_singleton.mp hsteady d List.mem_concat_self)
            (hchanged d hlast)
      rw [hnone]
      exact Nat.le_refl _

end FinalStretch

/-! ## What is stored of a history -/

/-- A history comes down to a condition: the last one, as of the first one of the final
stretch. -/
def Condenses (history : List Condition) (d : Condition) : Prop :=
  ∃ last first rest, history.getLast? = some last ∧ FinalStretch history (first :: rest)
    ∧ d = { last with lastTransitionTime := first.lastTransitionTime }

/-- A first condition condenses to itself. -/
theorem condenses_first (c : Condition) : Condenses [c] c := by
  have hstretch : FinalStretch ([] ++ [c]) [c] := by
    refine FinalStretch.begin ?_
    intro d hd
    exact nomatch hd
  exact ⟨c, c, [], rfl, hstretch, rfl⟩

namespace Condenses

variable {history : List Condition} {c d : Condition}

/-- With the status of what is stored, a condition takes over its transition time. -/
theorem keep (h : Condenses history d) (hsame : d.status = c.status) :
    Condenses (history ++ [c]) { c with lastTransitionTime := d.lastTransitionTime } := by
  obtain ⟨last, first, rest, hlast, hstretch, rfl⟩ := h
  refine ⟨c, first, rest ++ [c], List.getLast?_concat .., ?_, rfl⟩
  refine hstretch.prolong ?_
  intro e he
  have hmem : last ∈ first :: rest := by
    obtain ⟨before, rfl⟩ := hstretch.suffix
    rw [List.getLast?_append_of_ne_nil _ (List.cons_ne_nil first rest)] at hlast
    exact List.mem_of_getLast? hlast
  calc e.status = last.status := hstretch.steady e he last hmem
    _ = c.status := hsame

/-- With another status it keeps its own. -/
theorem change (h : Condenses history d) (hchanged : d.status ≠ c.status) :
    Condenses (history ++ [c]) c := by
  obtain ⟨last, first, rest, hlast, -, rfl⟩ := h
  refine ⟨c, c, [], List.getLast?_concat .., FinalStretch.begin ?_, rfl⟩
  intro e he
  rw [hlast, Option.mem_some_iff] at he
  rw [← he]
  exact hchanged

end Condenses

/-- The first condition of a type is what the history of the type comes down to; there is none
as long as there is no history. -/
def Stores (type : String) (conditions history : List Condition) : Prop :=
  match conditions.find? fun c => c.type == type with
  | none => history = []
  | some d => Condenses history d

/-- What follows the stored condition is what the longer history comes down to. -/
theorem Stores.follow {c : Condition} {conditions history : List Condition}
    (h : Stores c.type conditions history) :
    Condenses (history ++ [c]) (c.following conditions) := by
  unfold Stores at h
  unfold following
  split at h
  · next hnone =>
    rw [h, hnone]
    exact condenses_first c
  · next d hsome =>
    rw [hsome]
    show Condenses _ (if d.status = c.status then _ else _)
    split
    · next hsame => exact h.keep hsame
    · next hchanged => exact h.change hchanged

theorem find?_eq_head?_ofType (type : String) (conditions : List Condition) :
    conditions.find? (fun c => c.type == type) = (ofType type conditions).head? :=
  (List.head?_filter ..).symm

/-- At first the list stores what was there first. -/
theorem stores_history_nil (type : String) (earlier : List Condition) :
    Stores type earlier (history type earlier []) := by
  unfold Stores history
  split
  · next hnone => rw [hnone]; rfl
  · next d hsome => rw [hsome]; exact condenses_first d

/-! ## Setting one after the other -/

/-- One more condition is set last. -/
theorem setAll_concat (earlier sets : List Condition) (c : Condition) :
    setAll earlier (sets ++ [c]) = set (setAll earlier sets) c := by
  rw [setAll, List.foldl_append]
  rfl

/-- One more condition of the type is the last one of its history. -/
theorem history_concat_self (earlier sets : List Condition) (c : Condition) :
    history c.type earlier (sets ++ [c]) = history c.type earlier sets ++ [c] := by
  have hself : ofType c.type [c] = [c] := List.filter_eq_self.mpr (by simp)
  rw [history, ofType, List.filter_append, ← List.append_assoc]
  exact congrArg _ hself

/-- A condition of another type changes nothing. -/
theorem ofType_concat_of_ne {type : String} {c : Condition} (hne : c.type ≠ type)
    (sets : List Condition) : ofType type (sets ++ [c]) = ofType type sets := by
  have hother : ofType type [c] = [] := List.filter_eq_nil_iff.mpr (by simpa using hne)
  rw [ofType, List.filter_append]
  show ofType type sets ++ ofType type [c] = _
  rw [hother, List.append_nil]

/-- Whatever is set, the list stores what the history of the type comes down to. -/
theorem stores_setAll (type : String) (earlier sets : List Condition) :
    Stores type (setAll earlier sets) (history type earlier sets) := by
  induction sets using List.reverseRecOn with
  | nil => exact stores_history_nil type earlier
  | append_singleton sets c ih =>
    rw [setAll_concat]
    by_cases htype : c.type = type
    · subst htype
      rw [Stores, find?_eq_head?_ofType, ofType_set_self, history_concat_self]
      exact ih.follow
    · rw [Stores, find?_eq_head?_ofType, ofType_set_of_ne htype, ← find?_eq_head?_ofType,
        history, ofType_concat_of_ne htype]
      exact ih

/-- There is one condition of a type that was set. -/
theorem ofType_setAll {type : String} {sets : List Condition} (hset : type ∈ sets.map Condition.type)
    (earlier : List Condition) : ∃ d, ofType type (setAll earlier sets) = [d] := by
  induction sets using List.reverseRecOn with
  | nil => cases hset
  | append_singleton sets c ih =>
    rw [setAll_concat]
    by_cases htype : c.type = type
    · subst htype
      exact ⟨_, ofType_set_self c _⟩
    · rw [ofType_set_of_ne htype]
      refine ih ?_
      rw [List.map_append, List.mem_append] at hset
      rcases hset with hset | hset
      · exact hset
      · exact absurd (List.mem_singleton.mp hset).symm htype

/-- Conditions that are told apart by types that were not set stay, in order. -/
theorem filter_setAll {keep : Condition → Bool} {sets : List Condition}
    (hkeep : ∀ c ∈ sets, ∀ e : Condition, e.type = c.type → keep e = false)
    (earlier : List Condition) : (setAll earlier sets).filter keep = earlier.filter keep := by
  induction sets generalizing earlier with
  | nil => rfl
  | cons c sets ih =>
    calc (setAll earlier (c :: sets)).filter keep
        = (setAll (set earlier c) sets).filter keep := rfl
      _ = (set earlier c).filter keep :=
        ih (fun d hd => hkeep d (List.mem_cons_of_mem c hd)) (set earlier c)
      _ = earlier.filter keep := filter_set (hkeep c List.mem_cons_self) earlier

/-- Whatever the conditions were at first and whichever are set, one after the other: of a type
that was set there is one condition, which states what was set last, as of the first condition of
the final stretch of the type's history; conditions of the other types are left as they were. -/
theorem setAll_history (earlier sets : List Condition) :
    (∀ type ∈ sets.map Condition.type, ∃ last first rest,
      (ofType type sets).getLast? = some last
      ∧ FinalStretch (history type earlier sets) (first :: rest)
      ∧ ofType type (setAll earlier sets)
        = [{ last with lastTransitionTime := first.lastTransitionTime }])
    ∧ (setAll earlier sets).filter (fun c => decide (c.type ∉ sets.map Condition.type))
      = earlier.filter (fun c => decide (c.type ∉ sets.map Condition.type)) := by
  constructor
  · intro type hset
    obtain ⟨d, hd⟩ := ofType_setAll hset earlier
    have hstores : Condenses (history type earlier sets) d := by
      have h := stores_setAll type earlier sets
      rw [Stores, find?_eq_head?_ofType, hd] at h
      exact h
    obtain ⟨last, first, rest, hlast, hstretch, rfl⟩ := hstores
    refine ⟨last, first, rest, ?_, hstretch, hd⟩
    -- the history ends with what was set, of which there is some
    have hne : ofType type sets ≠ [] := by
      obtain ⟨c, hc, rfl⟩ := List.mem_map.mp hset
      exact List.ne_nil_of_mem (List.mem_filter.mpr ⟨hc, beq_self_eq_true c.type⟩)
    rw [history, List.getLast?_append_of_ne_nil _ hne] at hlast
    exact hlast
  · refine filter_setAll ?_ earlier
    intro c hc e htype
    rw [htype]
    exact decide_eq_false fun h => h (List.mem_map_of_mem hc)

/-- Readiness is stated twice at first; then the object is unready for another reason, ready, unready
again, and ready for one reason after the other, while its deployment is stated in between. -/
theorem setAll_history_flips :
    let stated (type : String) (status : ConditionStatus) (reason : String) (seconds : Int) : Condition :=
      { type := type, status := status, reason := reason, message := "",
        lastTransitionTime := { seconds := seconds, nanos := 0 } }
    let earlier := [stated ready .no "Created" 1, stated "Paused" .no "" 2, stated ready .yes "Stale" 3]
    let sets := [stated ready .no "PodNotRunning" 11, stated deployed .yes "PodCreated" 12,
      stated ready .yes "Available" 13, stated ready .no "ContainerNotReady" 14,
      stated ready .yes "Available" 15, stated deployed .yes "PodFound" 16,
      stated ready .yes "StillAvailable" 17]
    (∃ last first rest, (ofType ready sets).getLast? = some last
      ∧ FinalStretch (history ready earlier sets) (first :: rest)
      ∧ ofType ready (setAll earlier sets)
        = [{ last with lastTransitionTime := first.lastTransitionTime }])
    ∧ setAll earlier sets = [stated "Paused" .no "" 2, stated deployed .yes "PodFound" 12,
      stated ready .yes "StillAvailable" 15] := by
  intro stated earlier sets
  have hset : ready ∈ sets.map Condition.type := by decide
  exact ⟨(setAll_history earlier sets).1 ready hset, by decide⟩

end BuildFleet.Condition
