import BuildFleet.Kubernetes.ApiPod
import BuildFleet.Proofs.Json.Members

/-!
# What conforming values have

A value that has been brought into the shape of an object has, under the name of each field
(`Shape.HasField`), what the value had there, brought into the shape of the field. This is how a
part of a pod is followed into the pod of the API.

> `Shape.HasField.member?_conform?`: a member that a field asks for;
> `Pod.spec_toApi?`: the contents of a pod are what goes through all this, whatever its owner is.
-/

namespace BuildFleet

namespace Shape

variable {fields : List (String × Bool × Shape)} {members out : Members} {name : String}
  {needed : Bool} {s : Shape}

/-- What conforming does with one field: it adds at most one member to those of the other fields,
and one in the field's shape if there is a value that is not null. -/
theorem conformFields?_cons {rest : List (String × Bool × Shape)}
    (h : conformFields? ((name, needed, s) :: rest) members = some out) :
    ∃ others, conformFields? rest members = some others
      ∧ (out = others ∨ ∃ w, out = (name, w) :: others)
      ∧ ∀ v, Entries.get? name members = some v → v.kind ≠ .null →
        ∃ w, s.conform? v = some w ∧ out = (name, w) :: others := by
  rw [conformFields?] at h
  obtain ⟨others, hothers, h⟩ := Option.bind_eq_some_iff.mp h
  refine ⟨others, hothers, ?_⟩
  split at h
  · next hnull =>
    obtain rfl := Option.some.inj h
    constructor
    · cases needed with
      | true => exact Or.inr ⟨_, rfl⟩
      | false => exact Or.inl rfl
    · intro v hv hne
      rw [hv] at hnull
      exact absurd (congrArg Json.kind hnull) hne
  · obtain ⟨w, hw, rfl⟩ := Option.map_eq_some_iff.mp h
    refine ⟨Or.inr ⟨w, rfl⟩, ?_⟩
    intro v hv _
    rw [hv] at hw
    exact ⟨w, hw, rfl⟩

/-- The members of an object that conforms are some of its shape's fields. -/
theorem name_mem_of_conformFields? : ∀ {fields : List (String × Bool × Shape)} {out : Members},
    conformFields? fields members = some out → ∀ e ∈ out, e.1 ∈ fields.map Prod.fst
  | [], out, h, e, he => by
    rw [conformFields?] at h
    obtain rfl := Option.some.inj h
    exact absurd he List.not_mem_nil
  | (name, needed, s) :: rest, out, h, e, he => by
    obtain ⟨others, hothers, hout, -⟩ := conformFields?_cons h
    have hrest : e ∈ others → e.1 ∈ ((name, needed, s) :: rest).map Prod.fst := fun he =>
      List.mem_cons_of_mem _ (name_mem_of_conformFields? hothers e he)
    rcases hout with rfl | ⟨w, rfl⟩
    · exact hrest he
    · rcases List.mem_cons.mp he with rfl | he
      · exact List.mem_cons_self
      · exact hrest he

/-- A field that is there and not null is there afterwards, in its own shape. -/
theorem get?_conformFields? {v : Json} (hv : Entries.get? name members = some v)
    (hnull : v.kind ≠ .null) : ∀ {fields : List (String × Bool × Shape)} {out : Members},
    (fields.map Prod.fst).Nodup → conformFields? fields members = some out →
    (name, needed, s) ∈ fields →
      ∃ w, s.conform? v = some w ∧ Entries.get? name (Entries.ofList out) = some w
  | (name', needed', s') :: rest, out, hnodup, h, hfield => by
    rw [List.map_cons, List.nodup_cons] at hnodup
    obtain ⟨others, hothers, hout, hthere⟩ := conformFields?_cons h
    rcases List.mem_cons.mp hfield with heq | hfield
    · -- this is the field, and none of the others has its name
      obtain ⟨rfl, rfl, rfl⟩ : name = name' ∧ needed = needed' ∧ s = s' := by simpa using heq
      obtain ⟨w, hw, rfl⟩ := hthere v hv hnull
      have hnone : Entries.get? name (Entries.ofList others) = none := by
        refine Entries.get?_ofList_eq_none fun e he hek => hnodup.1 ?_
        exact hek ▸ name_mem_of_conformFields? hothers e he
      refine ⟨w, hw, ?_⟩
      rw [Entries.get?_ofList_cons, hnone, Option.none_or, if_pos rfl]
    · obtain ⟨w, hw, hget⟩ := get?_conformFields? hv hnull hnodup.2 hothers hfield
      refine ⟨w, hw, ?_⟩
      rcases hout with rfl | ⟨w', rfl⟩
      · exact hget
      · rw [Entries.get?_ofList_cons, hget, Option.some_or]

/-- The shape is one of objects with a field of that name and shape, and its fields have different
names. -/
def HasField (object : Shape) (name : String) (s : Shape) : Prop :=
  ∃ fields, object = .object fields ∧ (fields.map Prod.fst).Nodup
    ∧ ∃ needed, (name, needed, s) ∈ fields

/-- A field that is there and not null is there once the object conforms, in its own shape. -/
theorem HasField.member?_conform? {o : Shape} {j v w : Json} (ho : o.HasField name s)
    (h : o.conform? j = some w) (hv : j.member? name = some v) (hnull : v.kind ≠ .null) :
    ∃ x, s.conform? v = some x ∧ w.member? name = some x := by
  obtain ⟨fields, rfl, hnodup, needed, hfield⟩ := ho
  rw [conform?] at h
  obtain ⟨members, hmembers, h⟩ := Option.bind_eq_some_iff.mp h
  obtain ⟨out, hout, rfl⟩ := Option.map_eq_some_iff.mp h
  cases j with
  | obj fields' =>
    obtain rfl := Option.some.inj hmembers
    exact get?_conformFields? hv hnull hnodup hout hfield
  | _ => exact nomatch hmembers

end Shape

/-! ## Pods -/

namespace PodFormat

/-- The contents of a pod have a list of containers. -/
theorem podSpec_containers : podSpec.HasField "containers" (.list container) :=
  ⟨_, rfl, by decide, true, by simp [Shape.required]⟩

/-- A container has a list of ports. -/
theorem container_ports : container.HasField "ports" (.list containerPort) :=
  ⟨_, rfl, by decide, false, by simp [containerFields, Shape.optional]⟩

/-- A port of a container has a number of 32 bits. -/
theorem containerPort_containerPort : containerPort.HasField "containerPort" .int32 :=
  ⟨_, rfl, by decide, true, by simp [Shape.required]⟩

end PodFormat

/-- The contents of a pod of the API are those of the pod that was built, as the format has them. -/
theorem Pod.spec_toApi? {p : Pod} {owner : Option OwnerReference} {api : ApiPod}
    (h : p.toApi? owner = some api) :
    ∃ spec, api.spec = some spec ∧ PodFormat.podSpec.conform? p.spec.toJson = some spec := by
  obtain ⟨read, hread, hapi⟩ := Option.map_eq_some_iff.mp h
  have hspec : api.spec = read.spec := by
    rw [← hapi]
    cases owner <;> rfl
  unfold ApiPod.ofJson? at hread
  simp only [Option.bind_eq_bind, Option.bind_eq_some_iff] at hread
  obtain ⟨m, hm, -, -, -, -, metadata, -, spec, hconform, status, -, hread⟩ := hread
  obtain rfl := Option.some.inj hread
  obtain rfl := Option.some.inj hm
  have hmember : p.toJson.member? "spec" = some p.spec.toJson := by
    rw [Pod.toJson, Json.member?_ofFields_append, Members.member?_always_self, Option.some_or]
  obtain ⟨x, hx, rfl⟩ := Members.optional?_eq_some hmember (fun hnull => nomatch hnull) hconform
  exact ⟨x, hspec, hx⟩

end BuildFleet
