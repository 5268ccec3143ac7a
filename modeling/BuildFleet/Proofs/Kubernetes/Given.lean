import BuildFleet.Proofs.Kubernetes.Conform

/-!
# What an object of the API is known to have

Whatever a value was before it conformed, afterwards each field of the object is absent or of the
field's shape (`Shape.HasField.gives`), and a field that is needed is there
(`Shape.NeedsField.exists_gives`). This is how the parts of a pod that was read are known without
looking at what it was read from: a text is a text, and every item of a list is an object of its
shape.

> `ApiPod.conforms_of_ofJson?`: a pod that was read has conforming contents and a conforming status.
-/

namespace BuildFleet

/-- Only an integer is read as one. -/
theorem Json.eq_int_of_int32? {j : Json} {n : Int} (h : j.int32? = some n) : j = .int n := by
  cases j with
  | int m =>
    have hmn : m = n := Option.some.inj (Option.ite_none_right_eq_some.mp h).2
    rw [hmn]
  | _ => exact nomatch h

namespace Shape

variable {fields : List (String × Bool × Shape)} {members out : Members} {name : String}
  {needed : Bool} {s : Shape} {w : Json}

/-- The value has come of conforming to the shape. -/
def Conforms (s : Shape) (w : Json) : Prop := ∃ v, s.conform? v = some w

/-- What a field of the shape is: a value that conforms, or what stands for one that is needed and
absent. -/
def Gives (s : Shape) (w : Json) : Prop := w = s.zero ∨ s.Conforms w

/-- What conforming writes for one field: nothing for one that is not needed, or what the field's
shape gives. -/
theorem conformFields?_cons_gives {rest : List (String × Bool × Shape)}
    (h : conformFields? ((name, needed, s) :: rest) members = some out) :
    ∃ others, conformFields? rest members = some others
      ∧ ((needed = false ∧ out = others) ∨ ∃ w, s.Gives w ∧ out = (name, w) :: others) := by
  rw [conformFields?] at h
  obtain ⟨others, hothers, h⟩ := Option.bind_eq_some_iff.mp h
  refine ⟨others, hothers, ?_⟩
  split at h
  · obtain rfl := Option.some.inj h
    cases needed with
    | true => exact Or.inr ⟨_, Or.inl rfl, rfl⟩
    | false => exact Or.inl ⟨rfl, rfl⟩
  · obtain ⟨w, hw, rfl⟩ := Option.map_eq_some_iff.mp h
    exact Or.inr ⟨w, Or.inr ⟨_, hw⟩, rfl⟩

/-- What is there under the name of a field is what its shape gives, and something is there if it is
needed. -/
theorem gives_of_conformFields? : ∀ {fields : List (String × Bool × Shape)} {out : Members},
    (fields.map Prod.fst).Nodup → conformFields? fields members = some out →
    (name, needed, s) ∈ fields →
      (∀ w, Entries.get? name (Entries.ofList out) = some w → s.Gives w)
        ∧ (needed = true → ∃ w, Entries.get? name (Entries.ofList out) = some w)
  | (name', needed', s') :: rest, out, hnodup, h, hfield => by
    rw [List.map_cons, List.nodup_cons] at hnodup
    obtain ⟨others, hothers, hout⟩ := conformFields?_cons_gives h
    rcases List.mem_cons.mp hfield with heq | hlater
    · -- this is the field, and none of the others has its name
      obtain ⟨rfl, rfl, rfl⟩ : name = name' ∧ needed = needed' ∧ s = s' := by simpa using heq
      have hnone : Entries.get? name (Entries.ofList others) = none := by
        refine Entries.get?_ofList_eq_none fun e he hek => hnodup.1 ?_
        exact hek ▸ name_mem_of_conformFields? hothers e he
      rcases hout with ⟨hneeded, rfl⟩ | ⟨w, hw, rfl⟩
      · rw [hnone]
        constructor
        · intro w hw
          exact nomatch hw
        · intro hneeds
          exact nomatch hneeded.symm.trans hneeds
      · rw [Entries.get?_ofList_cons, hnone, Option.none_or, if_pos rfl]
        exact ⟨fun w' hw' => Option.some.inj hw' ▸ hw, fun _ => ⟨w, rfl⟩⟩
    · have hne : name ≠ name' := by
        intro heq
        exact hnodup.1 (List.mem_map.mpr ⟨_, hlater, heq⟩)
      have hrest := gives_of_conformFields? hnodup.2 hothers hlater
      rcases hout with ⟨-, rfl⟩ | ⟨w', -, rfl⟩
      · exact hrest
      · rw [Entries.get?_ofList_cons, if_neg hne.symm, Option.or_none]
        exact hrest

/-- The shape is one of objects that always have a field of that name and shape. -/
def NeedsField (object : Shape) (name : String) (s : Shape) : Prop :=
  ∃ fields, object = .object fields ∧ (fields.map Prod.fst).Nodup ∧ (name, true, s) ∈ fields

/-- What an object that conforms has under the name of a field. -/
theorem HasField.gives {o : Shape} {j : Json} (ho : o.HasField name s) (hj : o.Conforms j)
    (hw : j.member? name = some w) : s.Gives w := by
  obtain ⟨fields, rfl, hnodup, needed, hfield⟩ := ho
  obtain ⟨v, hv⟩ := hj
  rw [conform?] at hv
  obtain ⟨members, -, hv⟩ := Option.bind_eq_some_iff.mp hv
  obtain ⟨out, hout, rfl⟩ := Option.map_eq_some_iff.mp hv
  exact (gives_of_conformFields? hnodup hout hfield).1 w hw

/-- A needed field is there. -/
theorem NeedsField.exists_gives {o : Shape} {j : Json} (ho : o.NeedsField name s)
    (hj : o.Conforms j) : ∃ w, j.member? name = some w ∧ s.Gives w := by
  obtain ⟨fields, rfl, hnodup, hfield⟩ := ho
  obtain ⟨v, hv⟩ := hj
  rw [conform?] at hv
  obtain ⟨members, -, hv⟩ := Option.bind_eq_some_iff.mp hv
  obtain ⟨out, hout, rfl⟩ := Option.map_eq_some_iff.mp hv
  obtain ⟨hgives, hthere⟩ := gives_of_conformFields? hnodup hout hfield
  obtain ⟨w, hw⟩ := hthere rfl
  exact ⟨w, hw, hgives w hw⟩

/-! ## Values -/

/-- What the shape of texts gives is a text. -/
theorem Gives.exists_str (h : string.Gives w) : ∃ t, w = .str t := by
  rcases h with rfl | ⟨v, hv⟩
  · exact ⟨"", by rw [zero]⟩
  · rw [conform?] at hv
    obtain ⟨t, -, rfl⟩ := Option.map_eq_some_iff.mp hv
    exact ⟨t, rfl⟩

/-- What the shape of flags gives is a flag. -/
theorem Gives.exists_bool (h : boolean.Gives w) : ∃ b, w = .bool b := by
  rcases h with rfl | ⟨v, hv⟩
  · exact ⟨false, by rw [zero]⟩
  · rw [conform?] at hv
    obtain ⟨b, -, rfl⟩ := Option.map_eq_some_iff.mp hv
    exact ⟨b, rfl⟩

/-- What the shape of integers gives is one of 32 bits. -/
theorem Gives.exists_int32 (h : int32.Gives w) : ∃ n, w = .int n ∧ w.int32? = some n := by
  rcases h with rfl | ⟨v, hv⟩
  · exact ⟨0, by rw [zero], by rw [zero]; rfl⟩
  · rw [conform?] at hv
    obtain ⟨n, hn, rfl⟩ := Option.map_eq_some_iff.mp hv
    exact ⟨n, rfl, Json.eq_int_of_int32? hn ▸ hn⟩

/-- The items of a list conform. -/
theorem Gives.exists_arr (h : (list s).Gives w) :
    ∃ items, w = .arr items ∧ ∀ x ∈ items, s.Conforms x := by
  rcases h with rfl | ⟨v, hv⟩
  · exact ⟨[], by rw [zero], fun x hx => absurd hx List.not_mem_nil⟩
  · rw [conform?] at hv
    obtain ⟨items, -, hv⟩ := Option.bind_eq_some_iff.mp hv
    obtain ⟨out, hout, rfl⟩ := Option.map_eq_some_iff.mp hv
    exact ⟨out, rfl, forall_of_mapM (fun x y hxy => ⟨x, hxy⟩) hout⟩

end Shape

/-! ## Pods -/

namespace PodFormat

/-- The status of a pod has a list of the statuses of its containers. -/
theorem podStatus_containerStatuses :
    podStatus.HasField "containerStatuses" (.list containerStatus) :=
  ⟨_, rfl, by decide, false, by simp [Shape.optional]⟩

/-- The status of a container always has its name. -/
theorem containerStatus_name : containerStatus.NeedsField "name" .string :=
  ⟨_, rfl, by decide, by simp [Shape.required, Shape.optional]⟩

/-- The status of a container always says whether it is ready. -/
theorem containerStatus_ready : containerStatus.NeedsField "ready" .boolean :=
  ⟨_, rfl, by decide, by simp [Shape.required, Shape.optional]⟩

end PodFormat

/-- The contents and the status of a pod that was read conform. -/
theorem ApiPod.conforms_of_ofJson? {j : Json} {p : ApiPod} (h : ofJson? j = some p) :
    (∀ spec ∈ p.spec, PodFormat.podSpec.Conforms spec)
      ∧ ∀ status ∈ p.status, PodFormat.podStatus.Conforms status := by
  unfold ofJson? at h
  simp only [Option.bind_eq_bind, Option.bind_eq_some_iff] at h
  obtain ⟨m, -, -, -, -, -, metadata, -, spec, hspec, status, hstatus, h⟩ := h
  obtain rfl := Option.some.inj h
  constructor
  · intro w hw
    obtain rfl : spec = some w := hw
    exact Members.exists_of_optional? hspec
  · intro w hw
    obtain rfl : status = some w := hw
    exact Members.exists_of_optional? hstatus

end BuildFleet
