import BuildFleet.Proofs.Merge.Keyed
import BuildFleet.Proofs.Merge.Parts

/-!
# Rules that are put together

All rules in use are made in one of six ways, from rules that are made so themselves, and each way
asks for a few facts about the merge at hand (`Composed`). A result about merging is therefore
proved once for each of the six, by induction, and holds of every record.
-/

namespace BuildFleet

/-- Rules made of rules, where merging does what the rules say. -/
inductive Composed : {α : Type} → Rules α → Prop
  /-- A layer that says something replaces the base. Values that are not free-form merge so. -/
  | single {α : Type} {m : α → α → Merged α} {leaf : α → Leaf}
      (hmerge : ∀ b l, m b l = .done (if (leaf l).sets then l else b))
      (hleaf : ∀ x, (leaf x).kind? = none) : Composed (.single m leaf)
  | fixed {α : Type} (leaf : α → Leaf) : Composed (.fixed leaf)
  | freeForm : Composed .freeForm
  | optional {α : Type} {r : Rules α} (h : Composed r) : Composed r.optional
  /-- Elements that are merged have the same key, and keep it. -/
  | keyed {α : Type} {r : Rules α} {key : α → String} (h : Composed r)
      (hkey : letI := r.mergeable; KeepsKey key) (hfits : ∀ x y, key x = key y → r.Fits x y) :
      Composed (r.keyed key)
  | composite {α : Type} {m : α → α → Merged α} {fits : α → α → Prop}
      {part : Step → Option (Facet α)} (h : ∀ s, ∀ f ∈ part s, Composed f.rules)
      (hmerge : Partwise m part)
      (hfits : ∀ b l, fits b l → ∀ s, ∀ f ∈ part s, f.rules.Fits (f.get b) (f.get l)) :
      Composed (.composite m fits part)

namespace Composed

variable {α : Type}

/-! ## Values that are replaced -/

/-- A text is replaced as a whole. -/
@[simp] theorem text : Composed .text :=
  .single (fun b l => by
    show Merged.done (if l.isEmpty then b else l) = .done (if !l.isEmpty then l else b)
    cases l.isEmpty <;> rfl) fun _ => rfl

@[simp] theorem flag : Composed .flag := .single (fun _ _ => rfl) fun _ => rfl

@[simp] theorem number : Composed .number := .single (fun _ _ => rfl) fun _ => rfl

@[simp] theorem quantity : Composed .quantity := .single (fun _ _ => rfl) fun _ => rfl

/-- A port is replaced as a whole. -/
@[simp] theorem port : Composed .port :=
  .single (fun b l => by
    show Merged.done (if l = 0 then b else l) = .done (if l != 0 then l else b)
    by_cases h : l = 0
    · simp [h]
    · simp [h]) fun _ => rfl

/-- A list is replaced as a whole unless the layer's is empty. -/
theorem done_atomic (b l : List α) :
    Merged.done (atomic b l) = .done (if !l.isEmpty then l else b) := by
  unfold atomic
  cases l.isEmpty <;> rfl

@[simp] theorem texts : Composed .texts := .single done_atomic fun _ => rfl

@[simp] theorem tolerations : Composed .tolerations := .single done_atomic fun _ => rfl

attribute [simp] Composed.fixed Composed.freeForm Composed.optional

/-! ## Maps and records -/

/-- The rules of maps are composed if those of their values are and all values fit. -/
@[simp] theorem dict {r : Rules α} (h : Composed r) (hfits : ∀ x y, r.Fits x y) :
    Composed r.dict := by
  refine .composite ?_ r.partwise_entry ?_
  · intro s f hf
    cases s with
    | member k =>
      obtain rfl := Option.some.inj hf
      exact h.optional
    | _ => exact nomatch hf
  · intro b l _ s f hf
    cases s with
    | member k =>
      obtain rfl := Option.some.inj hf
      exact fun x _ y _ => hfits x y
    | _ => exact nomatch hf

variable [Mergeable α] {parts : List (Step × Facet α)}

/-- The rules of a record are composed if those of its parts are and its parts fit. -/
theorem record (h : Fieldwise parts) (hparts : ∀ e ∈ parts, Composed e.2.rules)
    (hfits : ∀ b l : α, ∀ e ∈ parts, e.2.rules.Fits (e.2.get b) (e.2.get l)) :
    Composed (.record parts) :=
  .composite ((forall_lookup_iff h.steps).mpr hparts) h.partwise
    fun b l _ => (forall_lookup_iff h.steps).mpr (hfits b l)

/-- The rules of an element are composed if those of its parts are and its parts fit once the keys
agree. -/
theorem element {key : α → String} (h : Fieldwise parts)
    (hparts : ∀ e ∈ parts, Composed e.2.rules)
    (hfits : ∀ b l : α, key b = key l → ∀ e ∈ parts, e.2.rules.Fits (e.2.get b) (e.2.get l)) :
    Composed (.element key parts) :=
  .composite ((forall_lookup_iff h.steps).mpr hparts) h.partwise
    fun b l hbl => (forall_lookup_iff h.steps).mpr (hfits b l hbl)

/-- A keyed list of records. -/
theorem elements {key : α → String} (h : Composed (.element key parts)) (hkey : KeepsKey key) :
    Composed ((Rules.element key parts).keyed key) :=
  .keyed h hkey fun _ _ hxy => hxy

end Composed

end BuildFleet
