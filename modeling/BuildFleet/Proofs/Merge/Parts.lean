import BuildFleet.Proofs.Dict.Fold
import BuildFleet.Proofs.Merge.Rules

/-!
# Merging part by part

Records and maps have parts, and merging them comes down to merging the parts (`Partwise`): the
outcome is what has the merged parts, and there is one as soon as all parts merge. Where there is
none, the mismatch is that of a part, with the step to the part before its path. Nothing else is
used of records and maps from here on.

> `Rules.partwise_entry`: maps merge part by part, a part being what is under a key
> (`Rules.lay_dict_iff`);
> `Fieldwise.partwise`: so do records. For a record, `Assembles` goes through its merge field by
> field, and `Fieldwise` says that the listed fields are all there are (`Fieldwise.lay_iff`).
-/

namespace BuildFleet

variable {α : Type}

/-- The outcome for one part of two values, if it succeeds. -/
def Facet.lay (f : Facet α) (base layer : α) : Option f.Field :=
  f.rules.lay (f.get base) (f.get layer)

/-- The outcome for one part of two values. -/
def Facet.merged (f : Facet α) (base layer : α) : Merged f.Field :=
  f.rules.merge (f.get base) (f.get layer)

/-- The same mismatch seen from before a step. -/
def Mismatch.behind (s : Step) (e : Mismatch) : Mismatch := { e with path := s.segments ++ e.path }

/-- The outcome seen from before a step. -/
def Merged.behind (s : Step) (m : Merged α) : Merged α := s.segments.foldr Merged.within m

/-- Naming a part in clashes changes no value. -/
@[simp] theorem Merged.value?_behind (s : Step) (m : Merged α) :
    (m.behind s).value? = m.value? := by
  cases s with
  | rest => rfl
  | _ => exact Merged.value?_within ..

/-- A clash within a part has the part's name in front. -/
theorem Merged.mismatch_behind (s : Step) (m : Merged α) :
    (m.behind s).mismatch = m.mismatch.map (·.behind s) := by
  obtain ⟨v, _ | e⟩ := m <;> cases s <;> rfl

/-- Values merge part by part. -/
structure Partwise (m : α → α → Merged α) (part : Step → Option (Facet α)) : Prop where
  lay_iff : ∀ b l v, (m b l).value? = some v ↔ ∀ s, ∀ f ∈ part s, f.lay b l = some (f.get v)
  exists_lay : ∀ b l, (∀ s, ∀ f ∈ part s, ∃ w, f.lay b l = some w) → ∃ v, (m b l).value? = some v
  exists_mismatch : ∀ b l e, (m b l).mismatch = some e →
    ∃ s, ∃ f ∈ part s, ∃ e', (f.merged b l).mismatch = some e' ∧ e = e'.behind s

/-- If each part merges into one with a property, the outcome has such parts. -/
theorem Partwise.exists_of_parts {m : α → α → Merged α} {part : Step → Option (Facet α)}
    (hm : Partwise m part) {b l : α} {P : ∀ f : Facet α, f.Field → Prop}
    (h : ∀ s, ∀ f ∈ part s, ∃ w, f.lay b l = some w ∧ P f w) :
    ∃ v, (m b l).value? = some v ∧ ∀ s, ∀ f ∈ part s, P f (f.get v) := by
  obtain ⟨v, hv⟩ := hm.exists_lay b l fun s f hf =>
    let ⟨w, hw, _⟩ := h s f hf
    ⟨w, hw⟩
  refine ⟨v, hv, ?_⟩
  intro s f hf
  obtain ⟨w, hw, hP⟩ := h s f hf
  have hvw : f.get v = w := Option.some.inj (((hm.lay_iff b l v).mp hv s f hf).symm.trans hw)
  rw [hvw]
  exact hP

/-! ## Maps -/

section Maps

variable [Mergeable α]

/-- Nothing over an optional value leaves it as it is. -/
theorem value?_merge_none_right (b : Option α) : (merge b none).value? = some b := by
  cases b <;> rfl

/-- Where the layer has a value, so has the outcome. -/
theorem exists_of_value?_merge_some {b o : Option α} {v : α}
    (h : (merge b (some v)).value? = some o) : ∃ w, o = some w := by
  cases b with
  | none => exact ⟨v, (Option.some.inj h).symm⟩
  | some x =>
    have hx : (merge x v).value?.map some = some o :=
      (Merged.value?_map some (merge x v)).symm.trans h
    obtain ⟨w, -, hw⟩ := Option.map_eq_some_iff.mp hx
    exact ⟨w, hw.symm⟩

/-- One entry is merged with what is under its key, and the others go on from there. -/
theorem value?_mergeEntries_cons {base d : Dict α} {k : String} {v : α}
    {rest : List (String × α)} : (mergeEntries base ((k, v) :: rest)).value? = some d
      ↔ ∃ w, (merge (base.get? k) (some v)).value? = some (some w)
        ∧ (mergeEntries (base.insert k w) rest).value? = some d := by
  rw [mergeEntries]
  cases hk : base.get? k with
  | none =>
    constructor
    · intro h
      exact ⟨v, rfl, h⟩
    · rintro ⟨w, hw, h⟩
      have hvw : v = w := Option.some.inj (Option.some.inj hw)
      rw [hvw]
      exact h
  | some old =>
    have hmap : (merge (some old) (some v)).value? = (merge old v).value?.map some :=
      Merged.value?_map some (merge old v)
    rw [hmap]
    dsimp only
    rcases hm : (merge old v) with ⟨new, _ | e⟩
    · simp [Merged.within, Merged.value?]
    · simp [Merged.within, Merged.value?]

/-- Merging entries into a map merges, under each key, what both have there. -/
theorem value?_mergeEntries_iff : ∀ {entries : List (String × α)}, Entries.Sorted entries →
    ∀ {base d : Dict α}, (mergeEntries base entries).value? = some d
      ↔ ∀ k, (merge (base.get? k) (Entries.get? k entries)).value? = some (d.get? k)
  | [], _, base, d => by
    have hget : ∀ k, (merge (base.get? k) (Entries.get? k [])).value? = some (base.get? k) :=
      fun k => value?_merge_none_right _
    constructor
    · intro h k
      have hd : base = d := Option.some.inj h
      rw [hget, hd]
    · intro h
      have hd : base = d := Dict.ext_get? fun k => Option.some.inj ((hget k).symm.trans (h k))
      rw [hd]
      rfl
  | (k₀, v) :: rest, hs, base, d => by
    have hrest : Entries.Sorted rest := List.Pairwise.of_cons hs
    -- the key does not come up again
    have hnone : Entries.get? k₀ rest = none :=
      Entries.get?_eq_none_of_lt (List.pairwise_cons.mp hs).1
    have hself : Entries.get? k₀ ((k₀, v) :: rest) = some v := by
      rw [Entries.get?, if_pos rfl]
    have hother : ∀ k, k₀ ≠ k → Entries.get? k ((k₀, v) :: rest) = Entries.get? k rest := by
      intro k hk
      rw [Entries.get?, if_neg hk]
    rw [value?_mergeEntries_cons]
    constructor
    · rintro ⟨w, hw, h⟩ k
      have hk := (value?_mergeEntries_iff hrest).mp h k
      by_cases heq : k₀ = k
      · subst heq
        rw [Dict.get?_insert_self, hnone, value?_merge_none_right] at hk
        rw [hself, hw, ← hk]
      · rw [Dict.get?_insert_ne base w heq] at hk
        rw [hother k heq]
        exact hk
    · intro h
      have h₀ := h k₀
      rw [hself] at h₀
      obtain ⟨w, hw⟩ := exists_of_value?_merge_some h₀
      rw [hw] at h₀
      refine ⟨w, h₀, (value?_mergeEntries_iff hrest).mpr ?_⟩
      intro k
      by_cases heq : k₀ = k
      · subst heq
        rw [Dict.get?_insert_self, hnone, value?_merge_none_right, hw]
      · rw [Dict.get?_insert_ne base w heq, ← hother k heq]
        exact h k

/-- One entry does not merge with what is under its key, or one of the others fails. -/
theorem mismatch_mergeEntries_cons {base : Dict α} {k : String} {v : α} {rest : List (String × α)}
    {e : Mismatch} (h : (mergeEntries base ((k, v) :: rest)).mismatch = some e) :
    (∃ old e', base.get? k = some old ∧ (merge old v).mismatch = some e'
        ∧ e = e'.behind (.member k))
      ∨ ∃ w, (mergeEntries (base.insert k w) rest).mismatch = some e := by
  rw [mergeEntries] at h
  cases hk : base.get? k with
  | none =>
    rw [hk] at h
    exact Or.inr ⟨v, h⟩
  | some old =>
    rw [hk] at h
    dsimp only at h
    rcases hm : merge old v with ⟨new, _ | e'⟩
    · rw [hm] at h
      exact Or.inr ⟨new, h⟩
    · rw [hm] at h
      exact Or.inl ⟨old, e', rfl, congrArg Merged.mismatch hm, (Option.some.inj h).symm⟩

/-- Where entries do not merge into a map, what both have under some key does not. -/
theorem exists_mismatch_mergeEntries {entries : List (String × α)} (hs : Entries.Sorted entries)
    {base : Dict α} {e : Mismatch} (h : (mergeEntries base entries).mismatch = some e) :
    ∃ k e', (merge (base.get? k) (Entries.get? k entries)).mismatch = some e'
      ∧ e = e'.behind (.member k) := by
  induction entries generalizing base with
  | nil =>
    have hnone : (mergeEntries base []).mismatch = none := rfl
    rw [hnone] at h
    contradiction
  | cons entry rest ih =>
    obtain ⟨k₀, v⟩ := entry
    have hrest : Entries.Sorted rest := List.Pairwise.of_cons hs
    have hnone : Entries.get? k₀ rest = none :=
      Entries.get?_eq_none_of_lt (List.pairwise_cons.mp hs).1
    rcases mismatch_mergeEntries_cons h with ⟨old, e', hk₀, he', rfl⟩ | ⟨w, hw⟩
    · refine ⟨k₀, e', ?_, rfl⟩
      rw [hk₀, Entries.get?, if_pos rfl]
      exact he'
    · obtain ⟨k, e', he', rfl⟩ := ih hrest hw
      by_cases heq : k₀ = k
      · -- the other entries say nothing under this key
        subst heq
        rw [Dict.get?_insert_self, hnone] at he'
        contradiction
      · refine ⟨k, e', ?_, rfl⟩
        rw [Entries.get?, if_neg heq, ← Dict.get?_insert_ne base w heq]
        exact he'

/-- Entries merge if they do under each key. -/
theorem exists_value?_mergeEntries : ∀ {entries : List (String × α)}, Entries.Sorted entries →
    ∀ {base : Dict α},
      (∀ k, ∃ o, (merge (base.get? k) (Entries.get? k entries)).value? = some o) →
        ∃ d, (mergeEntries base entries).value? = some d
  | [], _, base, _ => ⟨base, rfl⟩
  | (k₀, v) :: rest, hs, base, h => by
    have hrest : Entries.Sorted rest := List.Pairwise.of_cons hs
    have hnone : Entries.get? k₀ rest = none :=
      Entries.get?_eq_none_of_lt (List.pairwise_cons.mp hs).1
    obtain ⟨o, ho⟩ := h k₀
    rw [Entries.get?, if_pos rfl] at ho
    obtain ⟨w, rfl⟩ := exists_of_value?_merge_some ho
    have hnext : ∃ d, (mergeEntries (base.insert k₀ w) rest).value? = some d := by
      apply exists_value?_mergeEntries hrest
      intro k
      by_cases heq : k₀ = k
      · subst heq
        rw [hnone]
        exact ⟨_, value?_merge_none_right _⟩
      · rw [Dict.get?_insert_ne base w heq]
        have hk := h k
        rw [Entries.get?, if_neg heq] at hk
        exact hk
    obtain ⟨d, hd⟩ := hnext
    exact ⟨d, value?_mergeEntries_cons.mpr ⟨w, ho, hd⟩⟩

end Maps

/-- Maps merge part by part. -/
theorem Rules.partwise_entry (r : Rules α) : Partwise r.dict.merge r.entry where
  lay_iff b l v := by
    let _ := r.mergeable
    have h : (mergeEntries b l.entries).value? = some v
        ↔ ∀ k, r.optional.lay (b.get? k) (l.get? k) = some (v.get? k) :=
      value?_mergeEntries_iff l.sorted
    constructor
    · intro hv s f hf
      cases s with
      | member k =>
        obtain rfl := Option.some.inj hf
        exact h.mp hv k
      | _ => exact nomatch hf
    · intro hparts
      exact h.mpr fun k => hparts (.member k) _ rfl
  exists_lay b l hparts := by
    let _ := r.mergeable
    exact exists_value?_mergeEntries l.sorted fun k => hparts (.member k) _ rfl
  exists_mismatch b l e he := by
    let _ := r.mergeable
    obtain ⟨k, e', he', rfl⟩ := exists_mismatch_mergeEntries l.sorted he
    exact ⟨.member k, _, rfl, e', he', rfl⟩

/-- Maps merge exactly if they do under each key. -/
theorem Rules.lay_dict_iff {r : Rules α} {b l v : Dict α} :
    r.dict.lay b l = some v ↔ ∀ k, r.optional.lay (b.get? k) (l.get? k) = some (v.get? k) := by
  refine (r.partwise_entry.lay_iff b l v).trans ?_
  constructor
  · exact fun h k => h (.member k) _ rfl
  · intro h s f hf
    cases s with
    | member k =>
      obtain rfl := Option.some.inj hf
      exact h k
    | _ => exact nomatch hf

/-! ## Records -/

open Layering (Persistent run)

/-- The rest of a record's merge gives the listed parts, and there is an outcome if they merge. -/
structure Assembles (b l : α) (parts : List (Step × Facet α)) (m : Layering α) : Prop where
  persistent : m.Persistent
  exists_value : (∀ e ∈ parts, ∃ w, e.2.lay b l = some w) → ∃ v, (run m).value? = some v
  lay_parts : ∀ v, (run m).value? = some v → ∀ e ∈ parts, e.2.lay b l = some (e.2.get v)
  exists_mismatch : ∀ x, (run m).mismatch = some x →
    ∃ e ∈ parts, ∃ y, (e.2.merged b l).mismatch = some y ∧ x = y.behind e.1

namespace Assembles

variable {b l : α} {e : Step × Facet α} {parts : List (Step × Facet α)}

/-- Nothing is left to merge. -/
theorem pure (a : α) : Assembles b l [] (Pure.pure a) where
  persistent := Layering.persistent_pure a
  exists_value _ := ⟨a, rfl⟩
  lay_parts _ _ _ he := absurd he List.not_mem_nil
  exists_mismatch _ hx := nomatch hx

/-- A part that is settled without merging in turn. -/
theorem given {m : Layering α} (hlay : e.2.lay b l = some (e.2.get (run m).value))
    (h : Assembles b l parts m) : Assembles b l (e :: parts) m where
  persistent := h.persistent
  exists_value hs := h.exists_value fun e he => hs e (List.mem_cons_of_mem _ he)
  lay_parts v hv := by
    obtain ⟨-, rfl⟩ := Merged.value?_eq_some_iff.mp hv
    exact List.forall_mem_cons.mpr ⟨hlay, h.lay_parts _ hv⟩
  exists_mismatch x hx := by
    obtain ⟨e', he', hmismatch⟩ := h.exists_mismatch x hx
    exact ⟨e', List.mem_cons_of_mem _ he', hmismatch⟩

/-- The next part, which the parts after it leave alone. -/
theorem next {base : e.2.Field} {merged : Unit → Merged e.2.Field}
    {next : e.2.Field → Layering α} (hm : merged () = (e.2.merged b l).behind e.1)
    (hget : (fun w => e.2.get (run (next w)).value) = id)
    (h : ∀ w, Assembles b l parts (next w)) :
    Assembles b l (e :: parts) (Layering.part base merged >>= next) where
  persistent := Layering.persistent_part_bind (h base).persistent
  exists_value hs := by
    obtain ⟨w, hw⟩ := hs e List.mem_cons_self
    have hvalue : (merged ()).value? = some w := by rw [hm, Merged.value?_behind]; exact hw
    obtain ⟨hnone, rfl⟩ := Merged.value?_eq_some_iff.mp hvalue
    obtain ⟨v, hv⟩ := (h (merged ()).value).exists_value
      fun e he => hs e (List.mem_cons_of_mem _ he)
    exact ⟨v, by rw [Layering.run_part_bind_of_merged hnone]; exact hv⟩
  lay_parts v hv := by
    have hmatch := (Merged.value?_eq_some_iff.mp hv).1
    obtain ⟨hnone, hrun⟩ := Layering.run_part_bind (fun w => (h w).persistent) hmatch
    rw [hrun] at hv
    refine List.forall_mem_cons.mpr ⟨?_, (h _).lay_parts v hv⟩
    obtain ⟨-, rfl⟩ := Merged.value?_eq_some_iff.mp hv
    have hpart : e.2.get (run (next (merged ()).value)).value = (merged ()).value :=
      congrFun hget _
    have hvalue : (merged ()).value? = e.2.lay b l := by rw [hm, Merged.value?_behind]; rfl
    rw [← hvalue, hpart]
    exact Merged.value?_eq_some_iff.mpr ⟨hnone, rfl⟩
  exists_mismatch x hx := by
    rcases Layering.mismatch_part_bind (fun w => (h w).persistent) hx with hfirst | hrest
    · rw [hm, Merged.mismatch_behind] at hfirst
      obtain ⟨y, hy, rfl⟩ := Option.map_eq_some_iff.mp hfirst
      exact ⟨e, List.mem_cons_self, y, hy, rfl⟩
    · obtain ⟨e', he', hmismatch⟩ := (h _).exists_mismatch x hrest
      exact ⟨e', List.mem_cons_of_mem _ he', hmismatch⟩

/-- The next part is a field with a name. -/
theorem field {name : String} {base : e.2.Field} {merged : Merged e.2.Field}
    {next : e.2.Field → Layering α}
    (hm : merged.within (.field name) = (e.2.merged b l).behind e.1)
    (hget : (fun w => e.2.get (run (next w)).value) = id)
    (h : ∀ w, Assembles b l parts (next w)) :
    Assembles b l (e :: parts)
      (Layering.part base (fun _ => merged.within (.field name)) >>= next) :=
  Assembles.next hm hget h

/-- The next part stands in for no single field. -/
theorem rest {base : e.2.Field} {merged : Merged e.2.Field} {next : e.2.Field → Layering α}
    (hm : merged = (e.2.merged b l).behind e.1)
    (hget : (fun w => e.2.get (run (next w)).value) = id)
    (h : ∀ w, Assembles b l parts (next w)) :
    Assembles b l (e :: parts) (Layering.part base (fun _ => merged) >>= next) :=
  Assembles.next hm hget h

end Assembles

/-- A record merges field by field, and the listed fields are all that it has. -/
structure Fieldwise [Mergeable α] (parts : List (Step × Facet α)) : Prop where
  steps : (parts.map Prod.fst).Nodup
  assembles : ∀ b l : α, ∃ m, merge b l = run m ∧ Assembles b l parts m
  ext : ∀ x y : α, (∀ e ∈ parts, e.2.get x = e.2.get y) → x = y

/-- A part is found under its name, the names being different. -/
theorem lookup_of_mem {β : Type 1} {parts : List (Step × β)} (hs : (parts.map Prod.fst).Nodup)
    {e : Step × β} (he : e ∈ parts) : parts.lookup e.1 = some e.2 := by
  induction parts with
  | nil => exact absurd he List.not_mem_nil
  | cons first rest ih =>
    rw [List.map_cons, List.nodup_cons] at hs
    rcases List.mem_cons.mp he with rfl | he
    · exact List.lookup_cons_self
    · have hne : (e.1 == first.1) = false :=
        beq_eq_false_iff_ne.mpr fun h => hs.1 (List.mem_map.mpr ⟨e, he, h⟩)
      rw [List.lookup_cons, hne]
      exact ih hs.2 he

/-- What holds of the listed parts is what holds of the parts that steps lead to. -/
theorem forall_lookup_iff {β : Type 1} {P : β → Prop} {parts : List (Step × β)}
    (hs : (parts.map Prod.fst).Nodup) :
    (∀ s, ∀ f ∈ parts.lookup s, P f) ↔ ∀ e ∈ parts, P e.2 := by
  constructor
  · intro h e he
    exact h e.1 e.2 (lookup_of_mem hs he)
  · intro h s f hf
    obtain ⟨before, after, rfl, -⟩ := List.lookup_eq_some_iff.mp hf
    exact h (s, f) (by simp)

/-- A record has no doubled keys exactly if none of its parts has. -/
theorem Fieldwise.distinct_iff [Mergeable α] {parts : List (Step × Facet α)} (h : Fieldwise parts)
    {fits : α → α → Prop} {x : α} :
    (Rules.composite merge fits fun s => parts.lookup s).Distinct x
      ↔ ∀ e ∈ parts, e.2.rules.Distinct (e.2.get x) :=
  forall_lookup_iff (P := fun f : Facet α => f.rules.Distinct (f.get x)) h.steps

/-- A record that merges field by field merges part by part. -/
theorem Fieldwise.partwise [Mergeable α] {parts : List (Step × Facet α)} (h : Fieldwise parts) :
    Partwise merge fun s => parts.lookup s where
  lay_iff b l v := by
    rw [forall_lookup_iff (P := fun f : Facet α => f.lay b l = some (f.get v)) h.steps]
    obtain ⟨m, hm, hparts⟩ := h.assembles b l
    rw [hm]
    constructor
    · exact hparts.lay_parts v
    · intro hv
      obtain ⟨v', hv'⟩ := hparts.exists_value fun e he => ⟨_, hv e he⟩
      have hsame : v' = v := h.ext v' v fun e he =>
        Option.some.inj ((hparts.lay_parts v' hv' e he).symm.trans (hv e he))
      rw [← hsame]
      exact hv'
  exists_lay b l hparts := by
    rw [forall_lookup_iff (P := fun f : Facet α => ∃ w, f.lay b l = some w) h.steps] at hparts
    obtain ⟨m, hm, hm'⟩ := h.assembles b l
    rw [hm]
    exact hm'.exists_value hparts
  exists_mismatch b l x hx := by
    obtain ⟨m, hm, hparts⟩ := h.assembles b l
    rw [hm] at hx
    obtain ⟨e, he, hmismatch⟩ := hparts.exists_mismatch x hx
    exact ⟨e.1, e.2, lookup_of_mem h.steps he, hmismatch⟩

/-- A record merges to the one that has the merged fields. -/
theorem Fieldwise.lay_iff [Mergeable α] {parts : List (Step × Facet α)} (h : Fieldwise parts)
    {fits : α → α → Prop} {b l v : α} :
    (Rules.composite merge fits fun s => parts.lookup s).lay b l = some v
      ↔ ∀ e ∈ parts, e.2.lay b l = some (e.2.get v) :=
  (h.partwise.lay_iff b l v).trans
    (forall_lookup_iff (P := fun f : Facet α => f.lay b l = some (f.get v)) h.steps)

end BuildFleet
