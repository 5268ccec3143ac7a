import BuildFleet.Proofs.Merge.Gathering
import BuildFleet.Proofs.Pod.Rules
import BuildFleet.Proofs.Resources.Clamping

/-!
# What becomes of the maps of a pod

A key of a map keeps its value or gets that of the layer. Quantities are always replaced
(`ReplacedOnMatch`), also where a layer names a container several times: then the last value counts.
The texts of labels, annotations and node selectors merge as the texts of fields do, for which the
empty text says nothing; so under a key an empty text does not replace another one
(`TextsReplaced`).

> `merge_maps`: the maps of a merged pod, and those of merged requirements.
-/

namespace BuildFleet

open Requirements (lastValue lastValue_cons)

/-- What the container asks for, which is nothing if it does not say. -/
def Container.requirements (c : Container) : Requirements := c.resources.getD .empty

/-- The limit of the container for a resource. -/
def Container.limit? (c : Container) (r : String) : Option Quantity := c.requirements.limits.get? r

/-- The request of the container for a resource. -/
def Container.request? (c : Container) (r : String) : Option Quantity :=
  c.requirements.requests.get? r

/-- The map has the layer's value under each key of the layer, and the base's under the others. -/
def ReplacedOnMatch {α : Type} (base layer v : Dict α) : Prop :=
  ∀ k, v.get? k = (layer.get? k).or (base.get? k)

/-- The map has the keys of both maps. A text of the layer is there under its key unless it is empty
and the base has another one. -/
structure TextsReplaced (base layer v : Dict String) : Prop where
  keys : ∀ k, (v.get? k).isSome = ((base.get? k).isSome || (layer.get? k).isSome)
  empty : ∀ k, layer.get? k = some "" → v.get? k = (base.get? k).or (some "")
  other : ∀ k, layer.get? k ≠ some "" → v.get? k = (layer.get? k).or (base.get? k)
  replaced_iff : ReplacedOnMatch base layer v
    ↔ ∀ k, layer.get? k = some "" → base.get? k = none ∨ base.get? k = some ""

/-- The first container of a name has for each resource the last value that is listed for it, first
in the base's first container of the name and then in those of the layer. Other containers are the
base's. -/
structure QuantitiesReplaced (part : Requirements → ResourceList) (base layer v : List Container) :
    Prop where
  names : ∀ name, (v.find? (·.mergeKey == name)).isSome
    = ((base.find? (·.mergeKey == name)).isSome || (layer.find? (·.mergeKey == name)).isSome)
  first : ∀ name w, v.find? (·.mergeKey == name) = some w → ∀ r, (part w.requirements).get? r
    = lastValue part (((base.find? (·.mergeKey == name)).toList
        ++ layer.filter (·.mergeKey == name)).map Container.requirements) r
  others : ∀ name, (v.filter (·.mergeKey == name)).tail = (base.filter (·.mergeKey == name)).tail

/-- Limits and requests are replaced on match. -/
structure Requirements.Replaced (base layer v : Requirements) : Prop where
  limits : ReplacedOnMatch base.limits layer.limits v.limits
  requests : ReplacedOnMatch base.requests layer.requests v.requests

/-- What a merge makes of every map of a pod. -/
structure Pod.MapsReplaced (base layer v : Pod) : Prop where
  labels : TextsReplaced base.metadata.labels layer.metadata.labels v.metadata.labels
  annotations :
    TextsReplaced base.metadata.annotations layer.metadata.annotations v.metadata.annotations
  nodeSelector : TextsReplaced base.spec.nodeSelector layer.spec.nodeSelector v.spec.nodeSelector
  limits : QuantitiesReplaced Requirements.limits base.spec.containers layer.spec.containers
    v.spec.containers
  requests : QuantitiesReplaced Requirements.requests base.spec.containers layer.spec.containers
    v.spec.containers
  initLimits : QuantitiesReplaced Requirements.limits base.spec.initContainers
    layer.spec.initContainers v.spec.initContainers
  initRequests : QuantitiesReplaced Requirements.requests base.spec.initContainers
    layer.spec.initContainers v.spec.initContainers

/-! ## Texts -/

/-- An empty text under a key leaves the base's text there. -/
theorem Rules.lay_optional_text_empty (b : Option String) :
    text.optional.lay b (some "") = some (b.or (some "")) := by
  cases b <;> rfl

/-- Any other text replaces the base's. -/
theorem Rules.lay_optional_text_of_ne {b l : Option String} (hl : l ≠ some "") :
    text.optional.lay b l = some (l.or b) := by
  cases l with
  | none => exact text.lay_optional_none_right b
  | some t =>
    cases b with
    | none => rfl
    | some s =>
      have ht : t.isEmpty = false := by
        rw [← Bool.not_eq_true, String.isEmpty_iff]
        exact fun h => hl (congrArg some h)
      show some (some (if t.isEmpty then s else t)) = some (some t)
      rw [ht, if_neg Bool.false_ne_true]

/-- Maps of texts merge key by key, an empty text replacing nothing. -/
theorem textsReplaced_of_lay {b l v : Dict String} (h : Rules.text.dict.lay b l = some v) :
    TextsReplaced b l v := by
  have hempty : ∀ k, l.get? k = some "" → v.get? k = (b.get? k).or (some "") := by
    intro k hl
    have hk := Rules.lay_dict_iff.mp h k
    rw [hl, Rules.lay_optional_text_empty] at hk
    exact (Option.some.inj hk).symm
  have hother : ∀ k, l.get? k ≠ some "" → v.get? k = (l.get? k).or (b.get? k) := by
    intro k hl
    have hk := Rules.lay_dict_iff.mp h k
    rw [Rules.lay_optional_text_of_ne hl] at hk
    exact (Option.some.inj hk).symm
  refine ⟨?_, hempty, hother, ?_⟩
  · intro k
    by_cases hl : l.get? k = some ""
    · rw [hempty k hl, hl, Option.isSome_or]
    · rw [hother k hl, Option.isSome_or, Bool.or_comm]
  · constructor
    · intro hv k hl
      have hk : (b.get? k).or (some "") = (some "").or (b.get? k) := by
        rw [← hempty k hl, hv k, hl]
      cases hb : b.get? k with
      | none => exact Or.inl rfl
      | some s =>
        rw [hb] at hk
        exact Or.inr hk
    · intro hb k
      by_cases hl : l.get? k = some ""
      · rw [hempty k hl, hl]
        rcases hb k hl with hb | hb
        · rw [hb, Option.none_or, Option.or_none]
        · rw [hb]
      · exact hother k hl

/-! ## Quantities -/

/-- A quantity always replaces the base's. -/
theorem Rules.lay_optional_quantity (b l : Option Quantity) :
    quantity.optional.lay b l = some (l.or b) := by
  cases b <;> cases l <;> rfl

/-- Maps of quantities merge key by key, every quantity replacing the base's. -/
theorem replacedOnMatch_of_lay {b l v : ResourceList} (h : Rules.quantity.dict.lay b l = some v) :
    ReplacedOnMatch b l v := by
  intro k
  have hk := Rules.lay_dict_iff.mp h k
  rw [Rules.lay_optional_quantity] at hk
  exact (Option.some.inj hk).symm

/-- So do the limits and the requests of requirements. -/
theorem Requirements.replaced_of_lay {b l v : Requirements}
    (h : Requirements.rules.lay b l = some v) : b.Replaced l v := by
  simp only [Requirements.fieldwise.lay_iff, Requirements.parts, Facet.lay,
    List.forall_mem_cons] at h
  exact ⟨replacedOnMatch_of_lay h.1, replacedOnMatch_of_lay h.2.1⟩

/-- A container without resources counts as one that asks for nothing. -/
theorem Container.replaced_of_lay {b l v : Container} (h : Container.rules.lay b l = some v) :
    b.requirements.Replaced l.requirements v.requirements := by
  simp only [Container.fieldwise.lay_iff, Container.parts, Facet.lay, List.forall_mem_cons] at h
  obtain ⟨-, -, -, -, -, -, -, -, hresources, -⟩ := h
  unfold Container.requirements
  rcases Rules.lay_optional_cases hresources with ⟨hb, hv⟩ | ⟨hl, hv⟩ | ⟨x, y, w, hb, hl, hv, hw⟩
  · rw [hb, hv]
    exact ⟨fun k => (Option.or_none).symm, fun k => (Option.or_none).symm⟩
  · rw [hl, hv]
    exact ⟨fun k => rfl, fun k => rfl⟩
  · rw [hb, hl, hv]
    exact Requirements.replaced_of_lay hw

section Containers

variable {part : Requirements → ResourceList}
  (hpart : ∀ {b l v : Requirements}, b.Replaced l v → ReplacedOnMatch (part b) (part l) (part v))

include hpart

/-- Containers that are laid one after the other leave the last values. -/
theorem get?_layAll (r : String) : ∀ {l : List Container} {o : Option Container} {w : Container},
    Container.rules.layAll o l = some (some w) →
      (part w.requirements).get? r
        = lastValue part ((o.toList ++ l).map Container.requirements) r
  | [], o, w, h => by
    obtain rfl : o = some w := Option.some.inj h
    show _ = lastValue part [w.requirements] r
    rw [lastValue_cons]
    rfl
  | x :: l, o, w, h => by
    obtain ⟨o', ho', hrest⟩ := Option.bind_eq_some_iff.mp h
    have hw := get?_layAll r hrest
    rcases Rules.lay_optional_cases ho' with ⟨rfl, rfl⟩ | ⟨hx, -⟩ | ⟨z, y, u, rfl, hy, rfl, hu⟩
    · exact hw
    · exact nomatch hx
    · obtain rfl := Option.some.inj hy
      have hr := hpart (Container.replaced_of_lay hu) r
      simp only [Option.toList_some, List.singleton_append, List.map_cons, lastValue_cons] at hw ⊢
      rw [hw, hr, Option.or_assoc]

/-- So do those of each container of a keyed list. -/
theorem quantitiesReplaced_of_lay {b l v : List Container}
    (h : (Container.rules.keyed Container.mergeKey).lay b l = some v) :
    QuantitiesReplaced part b l v where
  names _ := Rules.isSome_find?_keyed Container.keepsKey h
  first name w hw r := by
    have hall := Rules.layAll_keyed Container.keepsKey (k := name) h
    rw [hw] at hall
    exact get?_layAll hpart r hall
  others _ := Rules.tail_filter_keyed Container.keepsKey h

end Containers

/-! ## Pods -/

/-- So do all maps of a pod. -/
theorem Pod.mapsReplaced_of_lay {b l v : Pod} (h : Pod.rules.lay b l = some v) :
    b.MapsReplaced l v := by
  simp only [Pod.fieldwise.lay_iff, Pod.parts, Facet.lay, List.forall_mem_cons] at h
  obtain ⟨hmeta, hspec, -⟩ := h
  simp only [PodMeta.fieldwise.lay_iff, PodMeta.parts, Facet.lay, List.forall_mem_cons] at hmeta
  simp only [PodSpec.fieldwise.lay_iff, PodSpec.parts, Facet.lay, List.forall_mem_cons] at hspec
  obtain ⟨-, -, -, hlabels, hannotations, -⟩ := hmeta
  obtain ⟨hcontainers, hinitContainers, -, -, -, -, -, hnodeSelector, -⟩ := hspec
  exact {
    labels := textsReplaced_of_lay hlabels
    annotations := textsReplaced_of_lay hannotations
    nodeSelector := textsReplaced_of_lay hnodeSelector
    limits := quantitiesReplaced_of_lay Requirements.Replaced.limits hcontainers
    requests := quantitiesReplaced_of_lay Requirements.Replaced.requests hcontainers
    initLimits := quantitiesReplaced_of_lay Requirements.Replaced.limits hinitContainers
    initRequests := quantitiesReplaced_of_lay Requirements.Replaced.requests hinitContainers }

/-- Whatever merges, quantities are replaced on match, and so are texts unless the layer's is empty
and the base has another one. -/
theorem merge_maps (base layer : Pod) (b l : Requirements) :
    (∀ v, (merge base layer).result = .ok v → base.MapsReplaced layer v)
      ∧ ∀ v, (merge b l).result = .ok v → b.Replaced l v := by
  constructor
  · intro v h
    exact Pod.mapsReplaced_of_lay (Merged.result_eq_ok_iff.mp h)
  · intro v h
    exact Requirements.replaced_of_lay (Merged.result_eq_ok_iff.mp h)

/-- A label that is replaced, and a limit that a layer sets twice. -/
theorem merge_maps_twice :
    let one : Requirements := ⟨Dict.empty.insert "cpu" ⟨"1"⟩, .empty⟩
    let two : Requirements := ⟨Dict.empty.insert "cpu" ⟨"2"⟩, .empty⟩
    let base : Pod := {
      metadata := { labels := Dict.empty.insert "tier" "frontend" }
      spec := { containers := [{ name := "buildkit" }] } }
    let layer : Pod := {
      metadata := { labels := Dict.empty.insert "tier" "backend" }
      spec := {
        containers := [
          { name := "buildkit", resources := some one },
          { name := "buildkit", resources := some two }] } }
    (∃ v, (merge base layer).result = .ok v ∧ base.MapsReplaced layer v)
      ∧ ∃ v, (merge one two).result = .ok v ∧ one.Replaced two v := by
  intro one two base layer
  have hok : (merge base layer).result.isOk = true := by decide
  have hok' : (merge one two).result.isOk = true := by decide
  obtain ⟨v, hv⟩ := exists_of_isOk hok
  obtain ⟨w, hw⟩ := exists_of_isOk hok'
  obtain ⟨hpod, hrequirements⟩ := merge_maps base layer one two
  exact ⟨⟨v, hv, hpod v hv⟩, w, hw, hrequirements w hw⟩

/-- An empty label does not replace the base's. -/
theorem merge_maps_kept :
    let base : Pod := { metadata := { labels := Dict.empty.insert "tier" "frontend" } }
    let layer : Pod := { metadata := { labels := Dict.empty.insert "tier" "" } }
    ∃ v, (merge base layer).result = .ok v
      ∧ layer.metadata.labels.get? "tier" = some ""
      ∧ v.metadata.labels.get? "tier" = some "frontend"
      ∧ ¬ ReplacedOnMatch base.metadata.labels layer.metadata.labels v.metadata.labels := by
  intro base layer
  have hok : (merge base layer).result.isOk = true := by decide
  obtain ⟨v, hv⟩ := exists_of_isOk hok
  have htier : v.metadata.labels.get? "tier" = some "frontend" := by
    cases hv
    rfl
  refine ⟨v, hv, rfl, htier, ?_⟩
  intro h
  have hreplaced : v.metadata.labels.get? "tier" = some "" := h "tier"
  rw [htier] at hreplaced
  exact nomatch Option.some.inj hreplaced

end BuildFleet
