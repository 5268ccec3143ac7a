import BuildFleet.Proofs.Merge.Elements
import BuildFleet.Proofs.Merge.Overlay

/-!
# Grouping layers

Laying two layers over a base one after the other, and merging them first and laying the outcome
over the base, come to the same (`Rules.GroupsAt`): either both succeed and give the same value, or
both fail. The layers must not repeat keys in their keyed lists; the base may.

> `Composed.groupsAt`: this holds for all rules in use.

The keyed list is the case with an argument in it. Laying one more element over a merged list can be
moved past the merge into the layer (`layElement_keyed`): there it meets the element of its key, if
there is one, and it goes past the others because their keys differ.
-/

namespace BuildFleet

variable {α : Type}

/-- Laying `a` and then `c` over `b` is laying `c` over `a` and the outcome over `b`. -/
def Rules.GroupsAt (r : Rules α) (b a c : α) : Prop :=
  ((r.lay b a).bind fun x => r.lay x c) = (r.lay a c).bind fun y => r.lay b y

/-! ## Values that are replaced -/

/-- Values that are replaced as a whole may be grouped either way. -/
theorem groupsAt_single {m : α → α → Merged α} {leaf : α → Leaf}
    (hmerge : ∀ b l, m b l = .done (if (leaf l).sets then l else b)) (b a c : α) :
    (Rules.single m leaf).GroupsAt b a c := by
  have hlay := Rules.lay_single hmerge
  unfold Rules.GroupsAt
  rw [hlay, hlay, Option.bind_some, Option.bind_some, hlay, hlay]
  cases hc : (leaf c).sets with
  | true => simp [hc]
  | false => simp

/-! ## Values that may be absent -/

/-- Optional values may be grouped either way if their values may. -/
theorem groupsAt_optional {r : Rules α} {b a c : Option α}
    (h : ∀ x ∈ b, ∀ y ∈ a, ∀ z ∈ c, r.GroupsAt x y z) : r.optional.GroupsAt b a c := by
  have hleft : r.optional.lay none = some := funext r.lay_optional_none_left
  have hright : (fun x => r.optional.lay x none) = some := funext r.lay_optional_none_right
  unfold Rules.GroupsAt
  cases a with
  | none =>
    rw [r.lay_optional_none_right, r.lay_optional_none_left]
    rfl
  | some y =>
    cases b with
    | none =>
      rw [hleft, Option.bind_some]
      exact (Option.bind_fun_some _).symm
    | some x =>
      cases c with
      | none =>
        rw [r.lay_optional_none_right, Option.bind_some, hright]
        exact Option.bind_fun_some _
      | some z =>
        have hxyz : ((r.lay x y).bind fun w => r.lay w z)
            = (r.lay y z).bind fun w => r.lay x w := h x rfl y rfl z rfl
        calc ((r.optional.lay (some x) (some y)).bind fun o => r.optional.lay o (some z))
            = ((r.lay x y).bind fun w => r.lay w z).map some := by
              rw [r.lay_optional_some, Option.bind_map, Option.map_bind]
              exact Option.bind_congr fun w _ => r.lay_optional_some w z
          _ = ((r.lay y z).bind fun w => r.lay x w).map some := congrArg _ hxyz
          _ = (r.optional.lay (some y) (some z)).bind fun o => r.optional.lay (some x) o := by
              rw [r.lay_optional_some y z, Option.bind_map, Option.map_bind]
              exact (Option.bind_congr fun w _ => r.lay_optional_some x w).symm

/-! ## Maps and records -/

section Composite

variable {m : α → α → Merged α} {fits : α → α → Prop} {part : Step → Option (Facet α)}

/-- Values group if their parts do. -/
theorem groupsAt_composite (hm : Partwise m part) {b a c : α}
    (h : ∀ s, ∀ f ∈ part s, f.rules.GroupsAt (f.get b) (f.get a) (f.get c)) :
    (Rules.composite m fits part).GroupsAt b a c := by
  apply Option.ext
  intro v
  simp only [Option.bind_eq_some_iff]
  constructor
  · -- what the parts give in one grouping they give in the other
    rintro ⟨x, hba, hxc⟩
    have hleft : ∀ s, ∀ f ∈ part s,
        ((f.lay b a).bind fun w => f.rules.lay w (f.get c)) = some (f.get v) := by
      intro s f hf
      rw [(hm.lay_iff b a x).mp hba s f hf]
      exact (hm.lay_iff x c v).mp hxc s f hf
    obtain ⟨y, hac, hby⟩ := hm.exists_of_parts fun s f hf =>
      Option.bind_eq_some_iff.mp ((h s f hf).symm.trans (hleft s f hf))
    exact ⟨y, hac, (hm.lay_iff b y v).mpr hby⟩
  · rintro ⟨y, hac, hby⟩
    have hright : ∀ s, ∀ f ∈ part s,
        ((f.lay a c).bind fun w => f.rules.lay (f.get b) w) = some (f.get v) := by
      intro s f hf
      rw [(hm.lay_iff a c y).mp hac s f hf]
      exact (hm.lay_iff b y v).mp hby s f hf
    obtain ⟨x, hba, hxc⟩ := hm.exists_of_parts fun s f hf =>
      Option.bind_eq_some_iff.mp ((h s f hf).trans (hright s f hf))
    exact ⟨x, hba, (hm.lay_iff x c v).mpr hxc⟩

end Composite

/-! ## Keyed lists -/

section Keyed

variable {r : Rules α} {key : α → String} (hkey : letI := r.mergeable; KeepsKey key)

/-- Two elements that pass by the head of the list go on to the rest. -/
theorem layElement_bind_cons_of_ne {x y z : α} (hx : key z ≠ key x) (hy : key z ≠ key y)
    (b : List α) : ((r.layElement key x (z :: b)).bind fun v => r.layElement key y v)
      = ((r.layElement key x b).bind fun v => r.layElement key y v).map (z :: ·) := by
  rw [Rules.layElement_cons_of_ne hx, Option.bind_map, Option.map_bind]
  exact Option.bind_congr fun v _ => Rules.layElement_cons_of_ne hy v

include hkey

/-- An element that goes into the head of the list, and one that passes by. -/
theorem layElement_comm_head {x y z : α} (hx : key z = key x) (hy : key z ≠ key y) (b : List α) :
    ((r.layElement key x (z :: b)).bind fun v => r.layElement key y v)
      = (r.layElement key y (z :: b)).bind fun v => r.layElement key x v := by
  -- the merged head has the key of the old one, so the other element still passes by
  have hhead : ∀ w, r.lay z x = some w →
      r.layElement key y (w :: b) = (r.layElement key y b).map (w :: ·) := fun w hw =>
    Rules.layElement_cons_of_ne (fun h => hy ((Rules.key_lay hkey hx hw).symm.trans h)) b
  calc ((r.layElement key x (z :: b)).bind fun v => r.layElement key y v)
      = (r.lay z x).bind fun w => (r.layElement key y b).map (w :: ·) := by
        rw [Rules.layElement_cons_of_eq hx, Option.bind_map]
        exact Option.bind_congr hhead
    _ = (r.layElement key y b).bind fun v => (r.lay z x).map (· :: v) := by
        simp only [Option.map_eq_bind]
        exact Option.bind_comm ..
    _ = (r.layElement key y (z :: b)).bind fun v => r.layElement key x v := by
        rw [Rules.layElement_cons_of_ne hy, Option.bind_map]
        exact Option.bind_congr fun v _ => (Rules.layElement_cons_of_eq hx v).symm

/-- Two elements with different keys can be laid in either order if one has its key in the list
already. Otherwise both would go to the end, and their order would show. -/
theorem layElement_comm {x y : α} (hxy : key x ≠ key y) : ∀ {b : List α}, key x ∈ b.map key →
    ((r.layElement key x b).bind fun v => r.layElement key y v)
      = (r.layElement key y b).bind fun v => r.layElement key x v
  | [], hx => absurd hx List.not_mem_nil
  | z :: b, hx => by
    by_cases hzx : key z = key x
    · exact layElement_comm_head hkey hzx (fun h => hxy (hzx.symm.trans h)) b
    by_cases hzy : key z = key y
    · exact (layElement_comm_head hkey hzy hzx b).symm
    have hrest : key x ∈ b.map key := by
      rcases List.mem_cons.mp hx with h | h
      · exact absurd h.symm hzx
      · exact h
    rw [layElement_bind_cons_of_ne hzx hzy, layElement_bind_cons_of_ne hzy hzx,
      layElement_comm hxy hrest]

/-- An element with its key in the base can be laid before a layer that does not have the key. -/
theorem layElement_keyed_of_not_mem {y : α} : ∀ {a b : List α}, key y ∉ a.map key →
    key y ∈ b.map key →
      (((r.keyed key).lay b a).bind fun v => r.layElement key y v)
        = (r.layElement key y b).bind fun v => (r.keyed key).lay v a
  | [], b, _, _ => (Option.bind_fun_some _).symm
  | x :: a, b, hy, hb => by
    rw [List.map_cons, List.mem_cons, not_or] at hy
    have ih : ∀ v, r.layElement key x b = some v →
        (((r.keyed key).lay v a).bind fun w => r.layElement key y w)
          = (r.layElement key y v).bind fun w => (r.keyed key).lay w a := fun v hv =>
      layElement_keyed_of_not_mem hy.2 (Rules.key_mem_layElement_of_mem hkey hv hb)
    rw [Rules.lay_keyed_cons, Option.bind_assoc, Option.bind_congr ih, ← Option.bind_assoc,
      ← layElement_comm hkey hy.1 hb, Option.bind_assoc]
    simp only [Rules.lay_keyed_cons]

/-- Two elements with one key are laid one after the other, or merged and then laid. -/
theorem layElement_layElement {x y : α} (hxy : key x = key y) (h : ∀ z, r.GroupsAt z x y) :
    ∀ b : List α, ((r.layElement key x b).bind fun v => r.layElement key y v)
      = (r.lay x y).bind fun w => r.layElement key w b
  | [] => by
    rw [Rules.layElement_nil, Option.bind_some, Rules.layElement_cons_of_eq hxy]
    exact Option.map_eq_bind ..
  | z :: b => by
    have hw : ∀ w, r.lay x y = some w → key w = key x := fun w => Rules.key_lay hkey hxy
    by_cases hzx : key z = key x
    · have hleft : ∀ v, r.lay z x = some v →
          r.layElement key y (v :: b) = (r.lay v y).map (· :: b) := fun v hv =>
        Rules.layElement_cons_of_eq ((Rules.key_lay hkey hzx hv).trans (hzx.trans hxy)) b
      have hright : ∀ w, r.lay x y = some w →
          r.layElement key w (z :: b) = (r.lay z w).map (· :: b) := fun w hxyw =>
        Rules.layElement_cons_of_eq (hzx.trans (hw w hxyw).symm) b
      calc ((r.layElement key x (z :: b)).bind fun v => r.layElement key y v)
          = ((r.lay z x).bind fun v => r.lay v y).map (· :: b) := by
            rw [Rules.layElement_cons_of_eq hzx, Option.bind_map, Option.map_bind]
            exact Option.bind_congr hleft
        _ = ((r.lay x y).bind fun w => r.lay z w).map (· :: b) := congrArg _ (h z)
        _ = (r.lay x y).bind fun w => r.layElement key w (z :: b) := by
            rw [Option.map_bind]
            exact (Option.bind_congr hright).symm
    · have hzy : key z ≠ key y := fun e => hzx (e.trans hxy.symm)
      have hright : ∀ w, r.lay x y = some w →
          r.layElement key w (z :: b) = (r.layElement key w b).map (z :: ·) := fun w hxyw =>
        Rules.layElement_cons_of_ne (fun e => hzx (e.trans (hw w hxyw))) b
      rw [layElement_bind_cons_of_ne hzx hzy, layElement_layElement hxy h b, Option.map_bind]
      exact (Option.bind_congr hright).symm

/-- Laying one more element over a merged list is laying it over the layer first. -/
theorem layElement_keyed {y : α} : ∀ {a b : List α}, (a.map key).Nodup →
    (∀ x ∈ a, ∀ z, r.GroupsAt z x y) →
      (((r.keyed key).lay b a).bind fun v => r.layElement key y v)
        = (r.layElement key y a).bind fun a' => (r.keyed key).lay b a'
  | [], b, _, _ => by
    rw [Rules.layElement_nil, Option.bind_some, Rules.lay_keyed_cons]
    exact (Option.bind_fun_some _).symm
  | x :: a, b, ha, h => by
    obtain ⟨hx, hrest⟩ := List.forall_mem_cons.mp h
    rw [List.map_cons, List.nodup_cons] at ha
    rw [Rules.lay_keyed_cons, Option.bind_assoc]
    by_cases hxy : key x = key y
    · -- the rest of the layer does not have the key, so the element can go before it
      have hnew : key y ∉ a.map key := hxy ▸ ha.1
      have hpast : ∀ v, r.layElement key x b = some v →
          (((r.keyed key).lay v a).bind fun w => r.layElement key y w)
            = (r.layElement key y v).bind fun w => (r.keyed key).lay w a := fun v hv =>
        layElement_keyed_of_not_mem hkey hnew (hxy ▸ Rules.key_mem_layElement hkey hv)
      rw [Option.bind_congr hpast, ← Option.bind_assoc, layElement_layElement hkey hxy hx,
        Option.bind_assoc, Rules.layElement_cons_of_eq hxy, Option.bind_map]
      simp only [Function.comp_def, Rules.lay_keyed_cons]
    · have ih : ∀ v, (((r.keyed key).lay v a).bind fun w => r.layElement key y w)
          = (r.layElement key y a).bind fun a' => (r.keyed key).lay v a' := fun v =>
        layElement_keyed ha.2 hrest
      simp only [ih]
      rw [Option.bind_comm, Rules.layElement_cons_of_ne hxy, Option.bind_map]
      simp only [Function.comp_def, Rules.lay_keyed_cons]

/-- Keyed lists group if their elements do. -/
theorem groupsAt_keyed
    (hdistinct : ∀ b l v, r.Distinct b → r.Distinct l → r.lay b l = some v → r.Distinct v)
    (h : ∀ z x y, r.Distinct x → r.Distinct y → r.GroupsAt z x y) {b : List α} :
    ∀ {c a : List α}, (r.keyed key).Distinct a → (r.keyed key).Distinct c →
      (r.keyed key).GroupsAt b a c
  | [], a, _, _ => Option.bind_fun_some _
  | y :: c, a, ha, hc => by
    obtain ⟨hy, hrest⟩ := List.forall_mem_cons.mp hc.2
    have hc' : (r.keyed key).Distinct c := ⟨(List.nodup_cons.mp hc.1).2, hrest⟩
    have ih : ∀ a', r.layElement key y a = some a' →
        (((r.keyed key).lay b a').bind fun v => (r.keyed key).lay v c)
          = ((r.keyed key).lay a' c).bind fun w => (r.keyed key).lay b w := fun a' ha' =>
      groupsAt_keyed hdistinct h ⟨Rules.keys_layElement_nodup hkey ha' ha.1,
        Rules.forall_layElement hdistinct hy ha.2 ha'⟩ hc'
    have hfirst : (((r.keyed key).lay b a).bind fun v => r.layElement key y v)
        = (r.layElement key y a).bind fun a' => (r.keyed key).lay b a' :=
      layElement_keyed hkey ha.1 fun x hx z => h z x y (ha.2 x hx) hy
    unfold Rules.GroupsAt
    simp only [Rules.lay_keyed_cons]
    rw [← Option.bind_assoc, hfirst, Option.bind_assoc, Option.bind_congr ih, Option.bind_assoc]

end Keyed

/-! ## Free-form JSON -/

namespace Json

open Rules (json)

/-- Replacing lists that are not empty is associative. -/
theorem atomic_assoc (b a c : List α) : atomic (atomic b a) c = atomic b (atomic a c) := by
  unfold atomic
  cases hc : c.isEmpty <;> cases ha : a.isEmpty <;> simp [*]

/-- With null at the bottom JSON values may be grouped either way. -/
theorem groupsAt_null_left (a c : Json) : json.GroupsAt null a c := by
  have hnull : json.lay null = some := funext lay_null_left
  unfold Rules.GroupsAt
  rw [hnull]
  exact (Option.bind_fun_some _).symm

/-- With null in the middle they may. -/
theorem groupsAt_null_middle (b c : Json) : json.GroupsAt b null c := by
  unfold Rules.GroupsAt
  rw [lay_null_right, lay_null_left]
  rfl

/-- With null on top they may. -/
theorem groupsAt_null_right (b a : Json) : json.GroupsAt b a null := by
  have hnull : (fun x => json.lay x null) = some := funext lay_null_right
  unfold Rules.GroupsAt
  rw [lay_null_right, hnull]
  exact Option.bind_fun_some _

/-- Values that are not null and not all of one kind do not merge, however they are grouped. -/
theorem groupsAt_of_kind_ne {b a c : Json} (hb : b.kind ≠ .null) (ha : a.kind ≠ .null)
    (hc : c.kind ≠ .null) (hne : b.kind ≠ a.kind ∨ a.kind ≠ c.kind) : json.GroupsAt b a c := by
  have hleft : ((json.lay b a).bind fun x => json.lay x c) = none := by
    rw [Option.bind_eq_none_iff]
    intro x hx
    have hxa : x.kind = a.kind := kind_lay hx ha
    rcases hne with hba | hac
    · rw [lay_of_kind_ne hb ha hba] at hx
      exact nomatch hx
    · exact lay_of_kind_ne (hxa ▸ ha) hc (hxa ▸ hac)
  have hright : ((json.lay a c).bind fun y => json.lay b y) = none := by
    rw [Option.bind_eq_none_iff]
    intro y hy
    have hyc : y.kind = c.kind := kind_lay hy hc
    rcases hne with hba | hac
    · by_cases hac : a.kind = c.kind
      · exact lay_of_kind_ne hb (hyc ▸ hc) (hyc ▸ hac ▸ hba)
      · rw [lay_of_kind_ne ha hc hac] at hy
        exact nomatch hy
    · rw [lay_of_kind_ne ha hc hac] at hy
      exact nomatch hy
  exact hleft.trans hright.symm

/-- Scalars of one kind may be grouped either way. -/
theorem groupsAt_scalar {b a c : Json} (ha : a.IsScalar) (hc : c.IsScalar)
    (hba : b.kind = a.kind) (hac : a.kind = c.kind) : json.GroupsAt b a c := by
  have hlay : ∀ {x y : Json}, y.IsScalar → x.kind = y.kind → json.lay x y = some y :=
    fun hy hxy => (lay_scalar hy).trans (if_pos (Or.inr hxy))
  unfold Rules.GroupsAt
  rw [hlay ha hba, hlay hc hac, Option.bind_some, Option.bind_some, hlay hc hac,
    hlay hc (hba.trans hac)]

/-- Objects group as maps do. -/
theorem groupsAt_obj {bs as cs : List (String × Json)} (hb : Entries.Sorted bs)
    (ha : Entries.Sorted as) (hc : Entries.Sorted cs)
    (h : json.dict.GroupsAt ⟨bs, hb⟩ ⟨as, ha⟩ ⟨cs, hc⟩) :
    json.GroupsAt (obj bs) (obj as) (obj cs) := by
  unfold Rules.GroupsAt
  rw [lay_obj hb ha, lay_obj ha hc, Option.bind_map, Option.bind_map]
  calc ((json.dict.lay ⟨bs, hb⟩ ⟨as, ha⟩).bind fun d => json.lay (obj d.entries) (obj cs))
      = ((json.dict.lay ⟨bs, hb⟩ ⟨as, ha⟩).bind fun d =>
          json.dict.lay d ⟨cs, hc⟩).map fun d => obj d.entries := by
        rw [Option.map_bind]
        exact Option.bind_congr fun d _ => lay_obj d.sorted hc
    _ = ((json.dict.lay ⟨as, ha⟩ ⟨cs, hc⟩).bind fun d =>
          json.dict.lay ⟨bs, hb⟩ d).map fun d => obj d.entries := congrArg _ h
    _ = (json.dict.lay ⟨as, ha⟩ ⟨cs, hc⟩).bind fun d => json.lay (obj bs) (obj d.entries) := by
        rw [Option.map_bind]
        exact Option.bind_congr fun d _ => (lay_obj hb d.sorted).symm

/-- JSON values group as far as their objects are in key order. -/
theorem groupsAt : ∀ {a b c : Json}, b.WellFormed → a.WellFormed → c.WellFormed →
    json.GroupsAt b a c
  | a, b, c, hb, ha, hc => by
    by_cases hbn : b.kind = .null
    · obtain rfl := eq_null_of_kind hbn
      exact groupsAt_null_left a c
    by_cases han : a.kind = .null
    · obtain rfl := eq_null_of_kind han
      exact groupsAt_null_middle b c
    by_cases hcn : c.kind = .null
    · obtain rfl := eq_null_of_kind hcn
      exact groupsAt_null_right b a
    by_cases hba : b.kind = a.kind
    case neg => exact groupsAt_of_kind_ne hbn han hcn (Or.inl hba)
    by_cases hac : a.kind = c.kind
    case neg => exact groupsAt_of_kind_ne hbn han hcn (Or.inr hac)
    by_cases hobj : a.kind = .object
    · obtain ⟨as, rfl⟩ := eq_obj_of_kind hobj
      obtain ⟨bs, rfl⟩ := eq_obj_of_kind hba
      obtain ⟨cs, rfl⟩ := eq_obj_of_kind hac.symm
      rw [WellFormed] at ha hb hc
      -- under each key the middle value is smaller than the object it is taken from
      refine groupsAt_obj hb.1 ha.1 hc.1 (groupsAt_composite json.partwise_entry ?_)
      intro s f hf
      cases s with
      | member k =>
        obtain rfl := Option.some.inj hf
        refine groupsAt_optional ?_
        intro x hx y hy z hz
        have hlt : sizeOf y < sizeOf (obj as) :=
          sizeOf_lt_of_mem ((Entries.get?_eq_some_iff_mem ha.1).mp hy)
        exact groupsAt (wellFormed_of_get? hb.2 hx) (wellFormed_of_get? ha.2 hy)
          (wellFormed_of_get? hc.2 hz)
      | _ => exact nomatch hf
    by_cases harr : a.kind = .array
    · obtain ⟨as, rfl⟩ := eq_arr_of_kind harr
      obtain ⟨bs, rfl⟩ := eq_arr_of_kind hba
      obtain ⟨cs, rfl⟩ := eq_arr_of_kind hac.symm
      unfold Rules.GroupsAt
      rw [lay_arr, lay_arr, Option.bind_some, Option.bind_some, lay_arr, lay_arr, atomic_assoc]
    exact groupsAt_scalar ⟨han, harr, hobj⟩ ⟨hcn, hac ▸ harr, hac ▸ hobj⟩ hba hac
termination_by a => sizeOf a

end Json

/-- Free-form objects may be grouped either way. -/
theorem groupsAt_freeForm (b a c : FreeForm) : Rules.freeForm.GroupsAt b a c := by
  have hjson := Json.groupsAt b.wellFormed a.wellFormed c.wellFormed
  apply Option.map_injective (f := FreeForm.toJson) fun f g => FreeForm.toJson_injective
  calc ((Rules.freeForm.lay b a).bind fun x => Rules.freeForm.lay x c).map FreeForm.toJson
      = (Rules.json.lay b.toJson a.toJson).bind fun x => Rules.json.lay x c.toJson := by
        rw [Option.map_bind, ← FreeForm.map_toJson_lay, Option.bind_map]
        exact Option.bind_congr fun x _ => FreeForm.map_toJson_lay x c
    _ = (Rules.json.lay a.toJson c.toJson).bind fun y => Rules.json.lay b.toJson y := hjson
    _ = ((Rules.freeForm.lay a c).bind fun y => Rules.freeForm.lay b y).map FreeForm.toJson := by
        rw [Option.map_bind, ← FreeForm.map_toJson_lay a c, Option.bind_map]
        exact (Option.bind_congr fun y _ => FreeForm.map_toJson_lay b y).symm

/-! ## All rules -/

/-- Where neither value repeats keys, the outcome does not. -/
theorem Composed.distinct_lay {r : Rules α} (h : Composed r) :
    ∀ b l v, r.Distinct b → r.Distinct l → r.lay b l = some v → r.Distinct v := by
  induction h with
  | single _ _ => exact fun _ _ _ _ _ _ => trivial
  | fixed _ => exact fun _ _ _ _ _ _ => trivial
  | freeForm => exact fun _ _ _ _ _ _ => trivial
  | optional _ ih =>
    intro b l v hb hl hv
    rcases Rules.lay_optional_cases hv with ⟨-, rfl⟩ | ⟨-, rfl⟩ | ⟨x, y, w, rfl, rfl, rfl, hw⟩
    · exact hl
    · exact hb
    · intro w' hw'
      obtain rfl := Option.some.inj hw'
      exact ih x y w (hb x rfl) (hl y rfl) hw
  | @keyed _ r key _ hkey _ ih =>
    intro b l v hb hl hv
    refine ⟨?_, Rules.forall_keyed ih hb.2 hl.2 hv⟩
    let _ := r.mergeable
    obtain ⟨-, rfl⟩ := Merged.value?_eq_some_iff.mp hv
    exact keys_keyed_nodup hkey hb.1 l
  | composite _ hmerge _ ih =>
    intro b l v hb hl hv s f hf
    exact ih s f hf _ _ _ (hb s f hf) (hl s f hf) ((hmerge.lay_iff b l v).mp hv s f hf)

/-- Layers that do not repeat keys can be grouped either way. -/
theorem Composed.groupsAt {r : Rules α} (h : Composed r) :
    ∀ b a c, r.Distinct a → r.Distinct c → r.GroupsAt b a c := by
  induction h with
  | single hmerge _ => exact fun b a c _ _ => groupsAt_single hmerge b a c
  | fixed _ => exact fun _ _ _ _ _ => rfl
  | freeForm => exact fun b a c _ _ => groupsAt_freeForm b a c
  | optional _ ih =>
    intro b a c ha hc
    exact groupsAt_optional fun x _ y hy z hz => ih x y z (ha y hy) (hc z hz)
  | keyed h hkey _ ih =>
    intro b a c ha hc
    exact groupsAt_keyed hkey h.distinct_lay ih ha hc
  | composite _ hmerge _ ih =>
    intro b a c ha hc
    exact groupsAt_composite hmerge fun s f hf =>
      ih s f hf _ _ _ (ha s f hf) (hc s f hf)

end BuildFleet
