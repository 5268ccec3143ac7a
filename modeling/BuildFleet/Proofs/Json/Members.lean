import BuildFleet.Json.FreeForm

/-!
# Members of records that are written and read

A record is written as a list of members that is brought into key order, so what is found under a
name is the last one that was written under it. The fields of a record have names of their own, and
behind them come the members without a field.

> `Json.member?_ofFields_append`: what is found in a record that is written in two parts;
> `FreeForm.avoids_ofMembers`: when a record is read, the members left over avoid its fields
> (`FreeForm.Avoids`).
-/

namespace BuildFleet

namespace Entries

variable {α : Type} {k : String}

/-- Entries that are added to others win over them. -/
theorem get?_foldl_insert (k : String) : ∀ l acc : List (String × α),
    get? k (l.foldl (fun acc e => insert e.1 e.2 acc) acc) = (get? k (ofList l)).or (get? k acc)
  | [], _ => rfl
  | (k', v) :: rest, acc => by
    have hofList : get? k (ofList ((k', v) :: rest))
        = (get? k (ofList rest)).or (get? k [(k', v)]) := get?_foldl_insert k rest _
    have hinsert : get? k (insert k' v acc) = (get? k [(k', v)]).or (get? k acc) := by
      by_cases hk : k' = k
      · subst hk
        rw [get?_insert_self, get?, if_pos rfl]
        rfl
      · rw [get?_insert_ne v hk, get?, if_neg hk]
        rfl
    rw [List.foldl_cons, get?_foldl_insert k rest, hofList, hinsert, Option.or_assoc]

/-- Of two lists of entries the second one wins. -/
theorem get?_ofList_append (k : String) (a b : List (String × α)) :
    get? k (ofList (a ++ b)) = (get? k (ofList b)).or (get? k (ofList a)) := by
  rw [ofList, List.foldl_append]
  exact get?_foldl_insert k b _

/-- An entry is found unless a later one has its key. -/
theorem get?_ofList_cons (k k' : String) (v : α) (l : List (String × α)) :
    get? k (ofList ((k', v) :: l)) = (get? k (ofList l)).or (if k' = k then some v else none) :=
  get?_foldl_insert k l [(k', v)]

/-- A key that is not listed is not found. -/
theorem get?_eq_none_of_forall_ne : ∀ {l : List (String × α)}, (∀ e ∈ l, e.1 ≠ k) → get? k l = none
  | [], _ => rfl
  | (k', v) :: rest, h => by
    obtain ⟨hne, hrest⟩ := List.forall_mem_cons.mp h
    rw [get?, if_neg hne, get?_eq_none_of_forall_ne hrest]

/-- Bringing entries into key order adds none. -/
theorem mem_of_mem_ofList {e : String × α} {l : List (String × α)} (he : e ∈ ofList l) : e ∈ l := by
  have step : ∀ l acc : List (String × α),
      e ∈ l.foldl (fun acc e => insert e.1 e.2 acc) acc → e ∈ l ∨ e ∈ acc := by
    intro l
    induction l with
    | nil => exact fun _ h => Or.inr h
    | cons first rest ih =>
      intro acc h
      rcases ih _ h with h | h
      · exact Or.inl (List.mem_cons_of_mem _ h)
      · rcases mem_insert h with rfl | h
        · exact Or.inl List.mem_cons_self
        · exact Or.inr h
  exact (step l [] he).resolve_right List.not_mem_nil

/-- Under each key there is the changed value. -/
theorem get?_mapValues {β : Type} (f : α → β) (k : String) :
    ∀ l : List (String × α), get? k (mapValues f l) = (get? k l).map f
  | [] => rfl
  | (k', v) :: rest => by
    show (if k' = k then some (f v) else get? k (mapValues f rest)) = _
    rw [get?_mapValues f k rest, get?]
    split <;> rfl

/-- Nothing is found under a key that no entry has. -/
theorem get?_ofList_eq_none {l : List (String × α)} (h : ∀ e ∈ l, e.1 ≠ k) :
    get? k (ofList l) = none :=
  get?_eq_none_of_forall_ne fun e he => h e (mem_of_mem_ofList he)

end Entries

/-! ## What is written under a name -/

namespace Json

/-- The members of a well-formed object are in key order. -/
theorem WellFormed.sorted {fields : Members} (h : (obj fields).WellFormed) :
    Entries.Sorted fields := by
  rw [WellFormed] at h
  exact h.1

/-- Of two parts of a record, the second one wins. -/
theorem member?_ofFields_append (k : String) (a b : Members) :
    (ofFields (a ++ b)).member? k = ((ofFields b).member? k).or ((ofFields a).member? k) :=
  Entries.get?_ofList_append k a b

/-- A part that is all written under one name has nothing under another. -/
theorem member?_ofFields_of_ne {m : Members} {name k : String} (hm : ∀ e ∈ m, e.1 = name)
    (hne : name ≠ k) : (ofFields m).member? k = none :=
  Entries.get?_ofList_eq_none fun e he hek => hne ((hm e he).symm.trans hek)

end Json

namespace Members

variable {α : Type} {name k : String}

/-- What is always written is not written under other names. -/
@[simp] theorem member?_always_of_ne {v : Json} (hne : name ≠ k) :
    (Json.ofFields (always name v)).member? k = none :=
  Json.member?_ofFields_of_ne (fun _ he => congrArg Prod.fst (List.mem_singleton.mp he)) hne

/-- What may be absent is not written under other names. -/
@[simp] theorem member?_option_of_ne {write : α → Json} {v : Option α} (hne : name ≠ k) :
    (Json.ofFields (option name write v)).member? k = none := by
  cases v with
  | none => rfl
  | some v => exact member?_always_of_ne hne

/-- What is always written is found under its name. -/
@[simp] theorem member?_always_self {v : Json} :
    (Json.ofFields (always name v)).member? name = some v :=
  Entries.get?_insert_self name v []

end Members

/-! ## Members without a field -/

namespace FreeForm

/-- The object has no member under any of the names. -/
def Avoids (f : FreeForm) (names : List String) : Prop :=
  ∀ k ∈ names, f.toJson.member? k = none

/-- The empty object avoids all names. -/
theorem avoids_empty (names : List String) : empty.Avoids names := fun _ _ => rfl

/-- Members that are written on their own are found as they are in the object. -/
theorem member?_ofFields_fields (f : FreeForm) (k : String) :
    (Json.ofFields f.fields).member? k = f.toJson.member? k := by
  rw [Json.ofFields, Entries.ofList_eq_self f.wellFormed.sorted, toJson]

/-- Members are canonical once their values are. -/
theorem canonicalFields_eq_mapValues : ∀ m : Members,
    Json.canonicalFields m = Entries.mapValues Json.canonical m
  | [] => rfl
  | (_, _) :: rest => by
    rw [Json.canonicalFields, canonicalFields_eq_mapValues rest]
    rfl

/-- Members in key order are kept, in canonical form. -/
theorem member?_ofMembers {m : Members} (hm : Entries.Sorted m) (k : String) :
    (ofMembers m).toJson.member? k = (Entries.get? k m).map Json.canonical := by
  show Entries.get? k (Entries.ofList (Json.canonicalFields m)) = _
  rw [canonicalFields_eq_mapValues, Entries.ofList_eq_self (Entries.mapValues_sorted _ hm),
    Entries.get?_mapValues]

/-- What is left over of a record's members has none of its fields. -/
theorem avoids_ofMembers (m : Members) (names : List String) :
    (ofMembers (m.without names)).Avoids names := by
  intro k hk
  refine Entries.get?_ofList_eq_none ?_
  intro e he hek
  rw [canonicalFields_eq_mapValues] at he
  obtain ⟨e, hmem, rfl⟩ := List.mem_map.mp he
  have hleft : (!names.contains e.1) = true := (List.mem_filter.mp hmem).2
  rw [hek, List.contains_iff_mem.mpr hk] at hleft
  exact Bool.false_ne_true hleft

end FreeForm

/-! ## Fields that are read -/

/-- A field that is there and not null is read. -/
theorem Members.optional?_eq_some {α : Type} {read : Json → Option α} {m : Members} {name : String}
    {j : Json} {o : Option α} (hj : Entries.get? name m = some j) (hnull : j.kind ≠ .null)
    (h : m.optional? name read = some o) : ∃ x, read j = some x ∧ o = some x := by
  unfold Members.optional? at h
  rw [hj] at h
  split at h
  · next heq => exact nomatch heq
  · next heq => exact absurd (congrArg Json.kind (Option.some.inj heq)) hnull
  · next v _ heq =>
    obtain rfl := Option.some.inj heq
    obtain ⟨x, hx, rfl⟩ := Option.map_eq_some_iff.mp h
    exact ⟨x, hx, rfl⟩

/-- A value of a field that may be absent has been read. -/
theorem Members.exists_of_optional? {α : Type} {read : Json → Option α} {m : Members}
    {name : String} {x : α} (h : m.optional? name read = some (some x)) :
    ∃ j, read j = some x := by
  unfold Members.optional? at h
  split at h
  · exact nomatch Option.some.inj h
  · exact nomatch Option.some.inj h
  · obtain ⟨y, hy, hxy⟩ := Option.map_eq_some_iff.mp h
    exact ⟨_, Option.some.inj hxy ▸ hy⟩

/-! ## Lists that are read -/

/-- A list is made item by item exactly if its first item and the others are. -/
theorem mapM_cons_eq_some {α β : Type} {f : α → Option β} {x : α} {xs : List α} {r : List β} :
    (x :: xs).mapM f = some r ↔ ∃ y ys, f x = some y ∧ xs.mapM f = some ys ∧ r = y :: ys := by
  simp only [List.mapM_cons, Option.pure_def, Option.bind_eq_bind, Option.bind_eq_some_iff,
    Option.some.injEq]
  constructor
  · rintro ⟨y, hy, ys, hys, rfl⟩
    exact ⟨y, ys, hy, hys, rfl⟩
  · rintro ⟨y, ys, hy, hys, rfl⟩
    exact ⟨y, hy, ys, hys, rfl⟩

/-- What holds of all outcomes of a step holds of all items of a list that is made by it. -/
theorem forall_of_mapM {α β : Type} {f : α → Option β} {P : β → Prop}
    (hf : ∀ x y, f x = some y → P y) :
    ∀ {xs : List α} {ys : List β}, xs.mapM f = some ys → ∀ y ∈ ys, P y
  | [], ys, h => by
    obtain rfl := Option.some.inj h
    exact fun y hy => absurd hy List.not_mem_nil
  | x :: xs, ys, h => by
    obtain ⟨y, ys, hy, hys, rfl⟩ := mapM_cons_eq_some.mp h
    exact List.forall_mem_cons.mpr ⟨hf x y hy, forall_of_mapM hf hys⟩

end BuildFleet
