import BuildFleet.Merge.Basic

/-!
# Merges that succeed

A record merges its fields in order, and from the first failure on it only passes the failure
along. So where a record has merged, each of its fields has, and the result holds what each field
gave. Likewise for layers: where all layers have merged, each step has.

> `Layering.run_part_bind`: a record that merged has merged its first field, and goes on with it;
> `mergeAll_view`: a view of the value that every merge takes to a view of the outcome is taken
> through all layers.

Where the mismatch of a failed merge does not matter, `Merged.value?` leaves an optional value, and
merging goes on as binding does.
-/

namespace BuildFleet

namespace Merged

variable {α β : Type}

/-- The merged value, if nothing stopped the merge. -/
def value? (m : Merged α) : Option α :=
  match m.mismatch with
  | none => some m.value
  | some _ => none

/-- An outcome has a value exactly if nothing clashed. -/
theorem value?_eq_some_iff {m : Merged α} {v : α} :
    m.value? = some v ↔ m.mismatch = none ∧ m.value = v := by
  obtain ⟨w, _ | e⟩ := m <;> simp [value?]

/-- A merge succeeds with the value of its outcome. -/
theorem result_eq_ok_iff {m : Merged α} {v : α} : m.result = .ok v ↔ m.value? = some v := by
  obtain ⟨w, _ | e⟩ := m <;> simp [value?, result]

/-- A merge fails with the first clash of its outcome. -/
theorem result_eq_error_iff {m : Merged α} {e : Mismatch} :
    m.result = .error e ↔ m.mismatch = some e := by
  obtain ⟨w, _ | e'⟩ := m <;> simp [result]

/-- The value of a changed outcome is the changed value. -/
@[simp] theorem value?_map (f : α → β) (m : Merged α) : (m.map f).value? = m.value?.map f := by
  obtain ⟨v, _ | e⟩ := m <;> rfl

/-- Naming a field in clashes changes no value. -/
@[simp] theorem value?_within (s : Segment) (m : Merged α) : (m.within s).value? = m.value? := by
  obtain ⟨v, _ | e⟩ := m <;> rfl

/-- Two merges have a value in turn if the first has one and the second has one with that. -/
@[simp] theorem value?_andThen (m : Merged α) (next : α → Merged α) :
    (m.andThen next).value? = m.value?.bind fun v => (next v).value? := by
  obtain ⟨v, _ | e⟩ := m <;> rfl

end Merged

namespace Layering

variable {α β : Type}

/-- Once a merge has failed, the rest passes the failure along. -/
def Persistent (m : Layering α) : Prop := ∀ e, (m (some e)).2 = some e

/-- Nothing clashes where nothing is merged. -/
theorem persistent_pure (a : α) : Persistent (pure a) := fun _ => rfl

/-- A field after a failure leaves the failure as it is. -/
theorem persistent_part_bind {base : α} {merged : Unit → Merged α} {next : α → Layering β}
    (hnext : Persistent (next base)) : Persistent (part base merged >>= next) :=
  fun e => hnext e

/-- A record that merged has merged its first field, and the other fields go on from there. -/
theorem run_part_bind {base : α} {merged : Unit → Merged α} {next : α → Layering β}
    (hnext : ∀ a, Persistent (next a)) (h : (run (part base merged >>= next)).mismatch = none) :
    (merged ()).mismatch = none
      ∧ run (part base merged >>= next) = run (next (merged ()).value) := by
  have hfirst : (merged ()).mismatch = none := by
    cases hm : (merged ()).mismatch with
    | none => rfl
    | some e =>
      -- the other fields would have passed the failure along
      have hlast : (run (part base merged >>= next)).mismatch = some e := by
        show (next (merged ()).value (merged ()).mismatch).2 = some e
        rw [hm]
        exact hnext _ e
      rw [hlast] at h
      exact absurd h (by simp)
  refine ⟨hfirst, ?_⟩
  show Merged.mk (next (merged ()).value (merged ()).mismatch).1
    (next (merged ()).value (merged ()).mismatch).2 = run (next (merged ()).value)
  rw [hfirst]
  rfl

/-- Behind a first field that merges, the other fields go on. -/
theorem run_part_bind_of_merged {base : α} {merged : Unit → Merged α} {next : α → Layering β}
    (h : (merged ()).mismatch = none) :
    run (part base merged >>= next) = run (next (merged ()).value) := by
  show Merged.mk (next (merged ()).value (merged ()).mismatch).1
    (next (merged ()).value (merged ()).mismatch).2 = run (next (merged ()).value)
  rw [h]
  rfl

/-- A record that fails does so at its first field, or behind it. -/
theorem mismatch_part_bind {base : α} {merged : Unit → Merged α} {next : α → Layering β}
    (hnext : ∀ a, Persistent (next a)) {e : Mismatch}
    (h : (run (part base merged >>= next)).mismatch = some e) :
    (merged ()).mismatch = some e ∨ (run (next (merged ()).value)).mismatch = some e := by
  have hlast : (next (merged ()).value (merged ()).mismatch).2 = some e := h
  cases hm : (merged ()).mismatch with
  | none =>
    rw [hm] at hlast
    exact Or.inr hlast
  | some e' =>
    rw [hm, hnext] at hlast
    exact Or.inl hlast

/-- A change of the first field that the other fields follow changes the outcome. -/
theorem run_part_bind_map {α' β' : Type} {f : β → β'} {g : α → α'} {base : α}
    {merged : Unit → Merged α} {merged' : Unit → Merged α'} {next : α → Layering β}
    {next' : α' → Layering β'} (hm : merged' () = (merged ()).map g)
    (h : ∀ a e, next' (g a) e = (f (next a e).1, (next a e).2)) :
    run (part (g base) merged' >>= next') = (run (part base merged >>= next)).map f := by
  show Merged.mk (next' (merged' ()).value (merged' ()).mismatch).1
    (next' (merged' ()).value (merged' ()).mismatch).2 = _
  rw [hm]
  show Merged.mk (next' (g (merged ()).value) (merged ()).mismatch).1
    (next' (g (merged ()).value) (merged ()).mismatch).2 = _
  rw [h]
  rfl

end Layering

/-- What a computation says to succeed has a result. -/
theorem exists_of_isOk {ε α : Type} {x : Except ε α} (h : x.isOk = true) : ∃ v, x = .ok v := by
  cases x with
  | ok v => exact ⟨v, rfl⟩
  | error e => exact nomatch h

/-- What has a value succeeded with it. -/
theorem eq_ok_of_toOption {ε α : Type} {x : Except ε α} {v : α} (h : x.toOption = some v) :
    x = .ok v := by
  cases x with
  | ok w => exact congrArg Except.ok (Option.some.inj h)
  | error e => exact nomatch h

section Layers

variable {α β : Type} [Mergeable α]

/-- All layers merge if the first one does and the others do on top of it. -/
theorem mergeAll_cons {base v : α} {layer : α} {layers : List α} :
    mergeAll base (layer :: layers) = .ok v
      ↔ (merge base layer).mismatch = none ∧ mergeAll (merge base layer).value layers = .ok v := by
  show ((merge base layer).result >>= fun acc => mergeAll acc layers) = .ok v ↔ _
  generalize merge base layer = m
  obtain ⟨value, mismatch⟩ := m
  cases mismatch with
  | none => exact ⟨fun h => ⟨rfl, h⟩, fun h => h.2⟩
  | some e => exact ⟨(fun h => nomatch h), fun h => nomatch h.1⟩

/-- Layers merge if the first one does and the others do with what comes of it. -/
theorem mergeAll_cons_eq_ok_iff {base v : α} {layer : α} {layers : List α} :
    mergeAll base (layer :: layers) = .ok v
      ↔ ∃ x, (merge base layer).value? = some x ∧ mergeAll x layers = .ok v := by
  rw [mergeAll_cons]
  constructor
  · rintro ⟨hfirst, hrest⟩
    exact ⟨_, Merged.value?_eq_some_iff.mpr ⟨hfirst, rfl⟩, hrest⟩
  · rintro ⟨x, hx, hrest⟩
    obtain ⟨hfirst, rfl⟩ := Merged.value?_eq_some_iff.mp hx
    exact ⟨hfirst, hrest⟩

/-- One layer merges if its merge has a value. -/
theorem mergeAll_singleton_eq_ok_iff {base layer v : α} :
    mergeAll base [layer] = .ok v ↔ (merge base layer).value? = some v := by
  rw [mergeAll_cons_eq_ok_iff]
  constructor
  · rintro ⟨x, hx, hv⟩
    obtain rfl := Except.ok.inj hv
    exact hx
  · intro hv
    exact ⟨v, hv, rfl⟩

/-- Two layers merge if each of the two merges has a value. -/
theorem mergeAll_pair_eq_ok_iff {base l₁ l₂ v : α} : mergeAll base [l₁, l₂] = .ok v
    ↔ ((merge base l₁).value?.bind fun x => (merge x l₂).value?) = some v := by
  rw [mergeAll_cons_eq_ok_iff, Option.bind_eq_some_iff]
  simp only [mergeAll_singleton_eq_ok_iff]

/-- What a view shows after all layers, if `lay` says what it shows after each. -/
theorem mergeAll_view (view : α → β) (lay : β → α → β)
    (hlay : ∀ base layer : α, (merge base layer).mismatch = none →
      view (merge base layer).value = lay (view base) layer) :
    ∀ {layers : List α} {base v : α}, mergeAll base layers = .ok v →
      view v = layers.foldl lay (view base)
  | [], _, _, h => congrArg view (Except.ok.inj h).symm
  | layer :: layers, base, v, h => by
    obtain ⟨hfirst, hrest⟩ := mergeAll_cons.mp h
    rw [List.foldl_cons, ← hlay base layer hfirst]
    exact mergeAll_view view lay hlay hrest

/-- A map that goes well with merging goes well with laying all layers. -/
theorem mergeAll_map [Mergeable β] {g : α → β}
    (hg : ∀ base layer : α, merge (g base) (g layer) = (merge base layer).map g) :
    ∀ (layers : List α) (base : α),
      mergeAll (g base) (layers.map g) = (mergeAll base layers).map g
  | [], _ => rfl
  | layer :: layers, base => by
    show ((merge (g base) (g layer)).result >>= fun acc => mergeAll acc (layers.map g))
      = ((merge base layer).result >>= fun acc => mergeAll acc layers).map g
    rw [hg]
    cases h : (merge base layer).mismatch with
    | none =>
      unfold Merged.result Merged.map
      rw [h]
      exact mergeAll_map hg layers _
    | some e =>
      unfold Merged.result Merged.map
      rw [h]
      rfl

end Layers

end BuildFleet
