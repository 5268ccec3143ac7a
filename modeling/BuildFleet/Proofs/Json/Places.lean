import BuildFleet.Proofs.Json.Forms
import BuildFleet.Proofs.Merge.Overlay

/-!
# What reading carries over

A value that was read and written again is compared with the one it was read from, place by place
(`Json.Carried`). At most places the same is said as before; a quantity may have turned into its
text, and a record that knows all its fields has lost what it has no field for. Which places these
are is given by two predicates, and the comparison is exact: what they do not say is lost is there.

Members that say nothing are not compared, since an empty text, list or map is left out.

> `Form.carries_list`, `Form.carries_dict`: what is in lists and maps is carried over;
> `RecordFormat.Describes.carries`: in a record that keeps other members, all that its fields carry
> is, and the other members as they are.
-/

namespace BuildFleet

namespace Json

/-- A step into a JSON value. -/
inductive Key where
  | member (name : String)
  | item (i : ℕ)
  deriving DecidableEq

/-- The value that steps lead to. -/
def descend? : List Key → Json → Option Json
  | [], j => some j
  | .member k :: path, j => (j.member? k).bind (descend? path)
  | .item i :: path, j => j.items?.bind fun items => items[i]?.bind (descend? path)

/-- The value is null, or an empty text, list or object. -/
def Blank (j : Json) : Prop := j = null ∨ j = str "" ∨ j = arr [] ∨ j = obj []

/-- Both values are objects or lists of the same length, or they are the same. -/
def Alike : Json → Json → Prop
  | arr xs, arr ys => xs.length = ys.length
  | obj _, obj _ => True
  | x, y => x = y

/-- The value at a place counts, which one that says nothing does not if it is a member. -/
def Counts (path : List Key) (x : Json) : Prop := ∀ k, path.getLast? = some (.member k) → ¬ x.Blank

/-- The second value says what the first one does, or is the text of the quantity that the first one
stands for. -/
def SaidBy (quantity : Prop) (x y : Json) : Prop :=
  x.Alike y ∨ quantity ∧ ∃ q, Quantity.ofJson? x = some q ∧ y = q.toJson

/-- Whatever counts in the first value is said by the second one in the same place, unless it is
lost. -/
def Carried (Q : List Key → Prop) (L : List Key → Json → Prop) (v w : Json) : Prop :=
  ∀ path x, v.descend? path = some x → Counts path x →
    ((∃ y, w.descend? path = some y ∧ SaidBy (Q path) x y) ↔ ¬ L path x)

@[simp] theorem descend?_nil (j : Json) : j.descend? [] = some j := rfl

/-- A path into a member goes on in what is found under its name. -/
@[simp] theorem descend?_member (j : Json) (k : String) (path : List Key) :
    j.descend? (.member k :: path) = (j.member? k).bind (descend? path) := rfl

@[simp] theorem descend?_item (j : Json) (i : ℕ) (path : List Key) :
    j.descend? (.item i :: path) = j.items?.bind fun items => items[i]?.bind (descend? path) := rfl

/-- A value is like itself. -/
theorem alike_self (x : Json) : x.Alike x := by
  cases x with
  | arr items => exact Eq.refl items.length
  | obj fields => trivial
  | _ => rfl

/-- A value says what it says. -/
theorem saidBy_self (quantity : Prop) (x : Json) : SaidBy quantity x x := Or.inl (alike_self x)

/-- Behind a step, the same counts. -/
theorem Counts.tail {key : Key} {path : List Key} {x : Json} (h : Counts (key :: path) x) :
    Counts path x := by
  intro k hk
  refine h k ?_
  rw [List.getLast?_cons, hk]
  rfl

/-- A value that is written as it is. -/
theorem carried_self {Q : List Key → Prop} {L : List Key → Json → Prop} (hL : ∀ path x, ¬ L path x)
    (v : Json) : Carried Q L v v :=
  fun path x hx _ => iff_of_true ⟨x, hx, saidBy_self _ x⟩ (hL path x)

/-- Without places inside, only the value itself is compared. -/
theorem carried_of_scalar {Q : List Key → Prop} {L : List Key → Json → Prop} {v w : Json}
    (hobject : v.kind ≠ .object) (harray : v.kind ≠ .array) (h : SaidBy (Q []) v w)
    (hL : ¬ L [] v) : Carried Q L v w := by
  intro path x hx _
  match path, hx with
  | [], hx =>
    obtain rfl := Option.some.inj hx
    exact iff_of_true ⟨w, rfl, h⟩ hL
  | .member k :: path, hx =>
    cases v with
    | obj fields => exact absurd rfl hobject
    | _ => exact nomatch hx
  | .item i :: path, hx =>
    cases v with
    | arr items => exact absurd rfl harray
    | _ => exact nomatch hx

end Json

open Json (Key Blank Counts SaidBy Carried)

/-! ## Values -/

namespace Form

variable {α : Type} {f : Form α} {Q Q' : List Key → Prop} {L L' : List Key → Json → Prop}

/-- What is read is carried over to what is written of it. -/
def Carries (f : Form α) (Q : List Key → Prop) (L : List Key → Json → Prop) : Prop :=
  ∀ j x, j.WellFormed → f.read j = some x → Carried Q L j (f.write x)

/-- Nothing is lost, and there are no quantities. -/
abbrev Exact (f : Form α) : Prop := f.Carries (fun _ => False) fun _ _ => False

/-- Where nothing is lost it makes no difference which places hold quantities. -/
theorem Exact.carries (h : f.Exact) (hL : ∀ path x, ¬ L path x) : f.Carries Q L := by
  intro j x hj hx path y hy hcounts
  obtain ⟨z, hz, hsaid⟩ := (h j x hj hx path y hy hcounts).mpr not_false
  refine iff_of_true ⟨z, hz, ?_⟩ (hL path y)
  rcases hsaid with hsaid | ⟨hq, -⟩
  · exact Or.inl hsaid
  · exact hq.elim

/-- Texts lose nothing. -/
@[simp] theorem exact_text : text.Exact := by
  intro j s _ hs
  cases j with
  | str s' =>
    obtain rfl := Option.some.inj hs
    exact Json.carried_self (fun _ _ => not_false) _
  | _ => exact nomatch hs

@[simp] theorem exact_flag : flag.Exact := by
  intro j b _ hb
  cases j with
  | bool b' =>
    obtain rfl := Option.some.inj hb
    exact Json.carried_self (fun _ _ => not_false) _
  | _ => exact nomatch hb

/-- Integers in a range lose nothing. -/
theorem exact_integer (lo hi : Int) : (integer lo hi).Exact := by
  intro j n _ hn
  cases j with
  | int m =>
    obtain ⟨-, hm⟩ := Option.ite_none_right_eq_some.mp hn
    obtain rfl := Option.some.inj hm
    exact Json.carried_self (fun _ _ => not_false) _
  | _ => exact nomatch hn

@[simp] theorem exact_int32 : int32.Exact := exact_integer _ _

@[simp] theorem exact_int64 : int64.Exact := exact_integer _ _

/-- Free-form objects lose nothing. -/
@[simp] theorem exact_freeForm : freeForm.Exact := by
  intro j x hj hx
  obtain ⟨fields, hfields, rfl⟩ := Option.map_eq_some_iff.mp hx
  have hsame : freeForm.write (FreeForm.ofMembers fields) = j := by
    cases j with
    | obj fields' =>
      obtain rfl := Option.some.inj hfields
      have hcanonical := Json.canonical_eq_self hj
      rw [Json.canonical] at hcanonical
      exact hcanonical
    | _ => exact nomatch hfields
  rw [hsame]
  exact Json.carried_self (fun _ _ => not_false) j

/-- A quantity carries over, in its own place and with nothing below it. -/
theorem carries_quantity (hQ : Q []) (hL : ∀ path x, ¬ L path x) : quantity.Carries Q L := by
  intro j q _ hq
  have hkind : j.kind ≠ .object ∧ j.kind ≠ .array := by
    cases j with
    | obj fields => exact nomatch (hq : (none : Option Quantity) = some q)
    | arr items => exact nomatch (hq : (none : Option Quantity) = some q)
    | _ => exact ⟨nofun, nofun⟩
  exact Json.carried_of_scalar hkind.1 hkind.2 (Or.inr ⟨hQ, q, hq, rfl⟩) (hL _ _)

/-- A list carries over what its items do, each in its place. -/
theorem carries_list (hf : f.Carries Q L) (hQ : ∀ i path, Q' (.item i :: path) ↔ Q path)
    (hL : ∀ i path x, L' (.item i :: path) x ↔ L path x) (hL₀ : ∀ x, ¬ L' [] x) :
    f.list.Carries Q' L' := by
  intro j xs hj hxs
  obtain ⟨items, hitems, hmap⟩ := Option.bind_eq_some_iff.mp hxs
  cases j with
  | arr items' =>
    obtain rfl := Option.some.inj hitems
    have hread := forall₂_of_mapM hmap
    rw [Json.WellFormed, Json.allWellFormed_iff] at hj
    intro path x hx hcounts
    match path, hx with
    | [], hx =>
      obtain rfl := Option.some.inj hx
      refine iff_of_true ⟨_, rfl, Or.inl ?_⟩ (hL₀ _)
      exact hread.length_eq.trans (List.length_map f.write).symm
    | .item i :: path, hx =>
      have hdescend : items'[i]?.bind (Json.descend? path) = some x := hx
      obtain ⟨item, hitem, hx⟩ := Option.bind_eq_some_iff.mp hdescend
      obtain ⟨hi, rfl⟩ := List.getElem?_eq_some_iff.mp hitem
      have hcarried := hf _ _ (hj _ (List.getElem_mem hi)) (hread.get hi (hread.length_eq ▸ hi))
      have hwritten : Json.descend? (.item i :: path) (f.list.write xs)
          = Json.descend? path (f.write (xs.get ⟨i, hread.length_eq ▸ hi⟩)) := by
        show ((xs.map f.write)[i]?).bind _ = _
        rw [List.getElem?_map, List.getElem?_eq_getElem (hread.length_eq ▸ hi)]
        rfl
      rw [hwritten, hQ, hL]
      exact hcarried path x hx hcounts.tail
  | _ => exact nomatch hitems

/-- A map carries over what its values do, each under its key. -/
theorem carries_dict (hf : f.Carries Q L) (hQ : ∀ k path, Q' (.member k :: path) ↔ Q path)
    (hL : ∀ k path x, L' (.member k :: path) x ↔ L path x) (hL₀ : ∀ x, ¬ L' [] x) :
    f.dict.Carries Q' L' := by
  intro j d hj hd
  obtain ⟨fields, hfields, hmap⟩ := Option.bind_eq_some_iff.mp hd
  obtain ⟨entries, hentries, rfl⟩ := Option.map_eq_some_iff.mp hmap
  cases j with
  | obj fields' =>
    obtain rfl := Option.some.inj hfields
    have hsorted : Entries.Sorted entries := by
      have hkeys : (fields'.map Prod.fst).Pairwise (· < ·) := List.pairwise_map.mpr hj.sorted
      rw [← keys_of_mapM hentries] at hkeys
      exact List.pairwise_map.mp hkeys
    intro path x hx hcounts
    match path, hx with
    | [], hx =>
      obtain rfl := Option.some.inj hx
      exact iff_of_true ⟨_, rfl, Or.inl trivial⟩ (hL₀ _)
    | .member k :: path, hx =>
      obtain ⟨v, hv, hx⟩ := Option.bind_eq_some_iff.mp hx
      obtain ⟨y, hy, hget⟩ := get?_of_mapM hentries hv
      have hwritten : Json.descend? (.member k :: path) (f.dict.write (Dict.ofList entries))
          = Json.descend? path (f.write y) := by
        show (Entries.get? k (Entries.mapValues f.write (Entries.ofList entries))).bind _ = _
        rw [Entries.get?_mapValues, Entries.ofList_eq_self hsorted, hget]
        rfl
      rw [hwritten, hQ, hL]
      exact hf v y (hj.member? hv) hy path x hx hcounts.tail
  | _ => exact nomatch hfields

/-- A list loses nothing if its items do not. -/
@[simp] theorem exact_list (hf : f.Exact) : f.list.Exact :=
  carries_list hf (fun _ _ => Iff.rfl) (fun _ _ _ => Iff.rfl) fun _ => not_false

/-- A map loses nothing if its values do not. -/
@[simp] theorem exact_dict (hf : f.Exact) : f.dict.Exact :=
  carries_dict hf (fun _ _ => Iff.rfl) (fun _ _ _ => Iff.rfl) fun _ => not_false

end Form

/-! ## Fields -/

/-- Nothing is below a blank value. -/
theorem Json.Blank.eq_nil {j x : Json} (h : j.Blank) {path : List Key}
    (hx : j.descend? path = some x) : path = [] := by
  match path, hx with
  | [], _ => rfl
  | .member k :: path, hx =>
    obtain rfl | rfl | rfl | rfl := h
    all_goals exact nomatch hx
  | .item i :: path, hx =>
    obtain rfl | rfl | rfl | rfl := h
    · exact nomatch hx
    · exact nomatch hx
    · have hnone : (([] : List Json)[i]?.bind (descend? path)) = some x := hx
      rw [List.getElem?_nil] at hnone
      exact nomatch hnone
    · exact nomatch hx

namespace Slot

variable {α : Type} {f : Form α} {Q Q' : List Key → Prop} {L L' : List Key → Json → Prop}

/-- What is read from a member is carried over to the one that is written. A member that says
nothing need not be. -/
def Carries (s : Slot α) (Q : List Key → Prop) (L : List Key → Json → Prop) : Prop :=
  ∀ j x, j.WellFormed → s.read (some j) = some x →
    (j.Blank ∧ s.write x = none) ∨ ∃ w, s.write x = some w ∧ Carried Q L j w

abbrev Exact (s : Slot α) : Prop := s.Carries (fun _ => False) fun _ _ => False

/-- A field that loses nothing carries over all there is, if nothing is said to be lost. -/
theorem Exact.carries {s : Slot α} (h : s.Exact) (hL : ∀ path x, ¬ L path x) : s.Carries Q L := by
  intro j x hj hx
  rcases h j x hj hx with hblank | ⟨w, hw, hcarried⟩
  · exact Or.inl hblank
  · refine Or.inr ⟨w, hw, fun path y hy hcounts => ?_⟩
    obtain ⟨z, hz, hsaid⟩ := (hcarried path y hy hcounts).mpr not_false
    exact iff_of_true ⟨z, hz, hsaid.imp_right fun hq => hq.1.elim⟩ (hL path y)

/-- What a field carries over depends only on which places are quantities and which are lost. -/
theorem Carries.congr {s : Slot α} (h : s.Carries Q L) (hQ : ∀ path, Q' path ↔ Q path)
    (hL : ∀ path x, L' path x ↔ L path x) : s.Carries Q' L' := by
  obtain rfl : Q' = Q := funext fun path => propext (hQ path)
  obtain rfl : L' = L := funext₂ fun path x => propext (hL path x)
  exact h

/-- A field that has to be there carries over what its form does. -/
theorem carries_required (hf : f.Carries Q L) : (required f).Carries Q L :=
  fun j x hj hx => Or.inr ⟨_, rfl, hf j x hj hx⟩

/-- A field that may be left out carries over what its form does, if only a blank value is left out.
-/
theorem carries_defaulted (hf : f.Carries Q L) {default : α} {blank : α → Bool}
    (hblank : ∀ j x, f.read j = some x → blank x = true → j.Blank) :
    (defaulted f default blank).Carries Q L := by
  intro j x hj hx
  show (_ ∧ (if blank x then none else some (f.write x)) = none)
    ∨ ∃ w, (if blank x then none else some (f.write x)) = some w ∧ _
  cases h : blank x with
  | true => exact Or.inl ⟨hblank j x hx h, rfl⟩
  | false => exact Or.inr ⟨_, rfl, hf j x hj hx⟩

/-- A list that may be left out carries over what it does as a value. -/
theorem carries_list (hf : f.list.Carries Q L) : (list f).Carries Q L := by
  refine carries_defaulted hf fun j xs hxs hempty => ?_
  obtain ⟨items, hitems, hmap⟩ := Option.bind_eq_some_iff.mp hxs
  have hlength := (forall₂_of_mapM hmap).length_eq
  rw [List.isEmpty_iff.mp hempty, List.length_nil, List.length_eq_zero_iff] at hlength
  cases j with
  | arr items' => exact Or.inr (Or.inr (Or.inl (by rw [Option.some.inj hitems, hlength])))
  | _ => exact nomatch hitems

/-- A map that may be left out carries over what it does as a value. -/
theorem carries_dict (hf : f.dict.Carries Q L) : (dict f).Carries Q L := by
  refine carries_defaulted hf fun j d hd hempty => ?_
  obtain ⟨fields, hfields, hmap⟩ := Option.bind_eq_some_iff.mp hd
  obtain ⟨entries, hentries, rfl⟩ := Option.map_eq_some_iff.mp hmap
  have hkeys := keys_of_mapM hentries
  cases entries with
  | nil =>
    obtain rfl : fields = [] := List.map_eq_nil_iff.mp hkeys.symm
    cases j with
    | obj fields' => exact Or.inr (Or.inr (Or.inr (congrArg Json.obj (Option.some.inj hfields))))
    | _ => exact nomatch hfields
  | cons e rest =>
    have hget : Entries.get? e.1 (Entries.ofList (e :: rest)) = none :=
      Dict.isEmpty_iff.mp hempty e.1
    rw [Entries.get?_ofList_cons, if_pos rfl] at hget
    exact absurd (Option.or_eq_none_iff.mp hget).2 (Option.some_ne_none _)

/-- A field that is always written carries over what its form does. -/
theorem carries_always (hf : f.Carries Q L) {default : α} : (always f default).Carries Q L :=
  carries_defaulted hf fun _ _ _ h => Bool.noConfusion h

/-- An optional field carries over what its form does. -/
theorem carries_optional (hf : f.Carries Q L) : (optional f).Carries Q L := by
  intro j o hj ho
  cases j with
  | null =>
    obtain rfl := Option.some.inj ho
    exact Or.inl ⟨Or.inl rfl, rfl⟩
  | _ =>
    obtain ⟨x, hx, rfl⟩ := Option.map_eq_some_iff.mp ho
    exact Or.inr ⟨_, rfl, hf _ x hj hx⟩

@[simp] theorem exact_text : text.Exact := by
  refine carries_defaulted Form.exact_text fun j s hs hempty => ?_
  cases j with
  | str s' =>
    obtain rfl := Option.some.inj hs
    exact Or.inr (Or.inl (congrArg Json.str (String.isEmpty_iff.mp hempty)))
  | _ => exact nomatch hs

@[simp] theorem exact_required (hf : f.Exact) : (required f).Exact := carries_required hf

@[simp] theorem exact_list (hf : f.Exact) : (list f).Exact := carries_list (Form.exact_list hf)

@[simp] theorem exact_dict (hf : f.Exact) : (dict f).Exact := carries_dict (Form.exact_dict hf)

@[simp] theorem exact_optional (hf : f.Exact) : (optional f).Exact := carries_optional hf

end Slot

/-! ## Records -/

/-- Only objects have members. -/
theorem Json.eq_obj_of_fields? {j : Json} {m : Members} (h : j.fields? = some m) : j = .obj m := by
  cases j with
  | obj fields => rw [Option.some.inj h]
  | _ => exact nomatch h

namespace RecordFormat.Describes

variable {ρ : Type} {R : RecordFormat ρ} {read : Json → Option ρ} {write : ρ → Json}
  {Q : List Key → Prop} {L : List Key → Json → Prop} {m : Members} {x : ρ}

/-- An object is read as a record from its own members. -/
theorem read_obj (h : R.Describes read write) (hx : read (.obj m) = some x) :
    (∀ e ∈ R.fields, e.2.slot.read (Entries.get? e.1 m) = some (e.2.get x))
      ∧ R.rest m = R.extra x := by
  obtain ⟨m', hm', hread⟩ := h.read_iff.mp hx
  have hm : R.members? (.obj m) = some m := by
    rw [members?]
    cases R.others <;> rfl
  obtain rfl := Option.some.inj (hm.symm.trans hm')
  exact hread

/-- What a field carries is carried over under its name. -/
theorem carries_member (h : R.Describes read write) (hj : (Json.obj m).WellFormed)
    (hx : read (.obj m) = some x) {e : String × RecordField ρ} (he : e ∈ R.fields)
    (hcarries : e.2.slot.Carries (fun path => Q (.member e.1 :: path))
      fun path => L (.member e.1 :: path)) {path : List Key} {y : Json}
    (hy : (Json.obj m).descend? (.member e.1 :: path) = some y)
    (hcounts : Counts (.member e.1 :: path) y) :
    (∃ z, (write x).descend? (.member e.1 :: path) = some z
      ∧ SaidBy (Q (.member e.1 :: path)) y z) ↔ ¬ L (.member e.1 :: path) y := by
  obtain ⟨hfields, hextra⟩ := h.read_obj hx
  obtain ⟨v, hv, hy⟩ := Option.bind_eq_some_iff.mp hy
  have hread := hfields e he
  rw [show Entries.get? e.1 m = some v from hv] at hread
  have hmember := h.member?_write he x
  rw [← hextra, R.avoids_rest m e.1 (List.mem_map_of_mem he), Option.none_or] at hmember
  rcases hcarries v _ (hj.member? hv) hread with ⟨hblank, -⟩ | ⟨w, hw, hcarried⟩
  · -- the member is the place itself, and it does not count
    obtain rfl := hblank.eq_nil hy
    obtain rfl := Option.some.inj hy
    exact absurd hblank (hcounts e.1 rfl)
  · rw [Json.descend?_member, hmember, hw]
    exact hcarried path y hy hcounts.tail

/-- An object carries what its fields do, and of other members what the record keeps of them. -/
theorem carried_obj (h : R.Describes read write) (hwrite : ∀ x, (write x).kind = .object)
    (hj : (Json.obj m).WellFormed) (hx : read (.obj m) = some x)
    (hfields : R.fields.Forall fun e => e.2.slot.Carries (fun path => Q (.member e.1 :: path))
      fun path => L (.member e.1 :: path))
    (hL₀ : ¬ L [] (.obj m))
    (hothers : ∀ k ∉ R.names, ∀ path y, (Json.obj m).descend? (.member k :: path) = some y →
      ((∃ z, (R.rest m).toJson.descend? (.member k :: path) = some z
        ∧ SaidBy (Q (.member k :: path)) y z) ↔ ¬ L (.member k :: path) y)) :
    Carried Q L (.obj m) (write x) := by
  intro path y hy hcounts
  match path, hy, hcounts with
  | [], hy, _ =>
    obtain rfl := Option.some.inj hy
    obtain ⟨w, hw⟩ := Json.eq_obj_of_kind (hwrite x)
    exact iff_of_true ⟨write x, rfl, Or.inl (hw ▸ trivial)⟩ hL₀
  | .item i :: path, hy, _ => exact nomatch hy
  | .member k :: path, hy, hcounts =>
    by_cases hk : k ∈ R.names
    · obtain ⟨e, he, rfl⟩ := List.mem_map.mp hk
      exact h.carries_member hj hx he (List.forall_iff_forall_mem.mp hfields e he) hy hcounts
    · rw [Json.descend?_member (write x), h.member?_write_of_notMem hk, ← (h.read_obj hx).2]
      exact hothers k hk path y hy

/-- A record that keeps other members carries what its fields do, and the other members as they
are. -/
theorem carries (h : R.Describes read write) {hwrite : ∀ x, (write x).kind = .object}
    {extra : ρ → FreeForm} (hothers : R.others = .kept extra)
    (hfields : R.fields.Forall fun e => e.2.slot.Carries (fun path => Q (.member e.1 :: path))
      fun path => L (.member e.1 :: path))
    (hL₀ : ∀ y, ¬ L [] y) (hL : ∀ k ∉ R.names, ∀ path y, ¬ L (.member k :: path) y) :
    (R.form read write hwrite).Carries Q L := by
  intro j x hj hx
  obtain ⟨m, hm, -⟩ := h.read_iff.mp hx
  rw [members?, hothers] at hm
  obtain rfl := Json.eq_obj_of_fields? hm
  refine h.carried_obj hwrite hj hx hfields (hL₀ _) fun k hk path y hy => ?_
  obtain ⟨v, hv, hy⟩ := Option.bind_eq_some_iff.mp hy
  have hsorted : Entries.Sorted (m.without R.names) := Entries.filterKeys_sorted _ hj.sorted
  have hkept : (R.rest m).toJson.member? k = some v := by
    rw [rest, hothers]
    show (FreeForm.ofMembers (m.without R.names)).toJson.member? k = some v
    rw [FreeForm.member?_ofMembers hsorted, Members.get?_without, if_neg hk,
      show Entries.get? k m = some v from hv, Option.map_some,
      Json.canonical_eq_self (hj.member? hv)]
  refine iff_of_true ⟨y, ?_, Json.saidBy_self _ y⟩ (hL k hk path y)
  rw [Json.descend?_member, hkept]
  exact hy

/-- A record that keeps members without a field loses nothing if none of its fields does. -/
theorem exact (h : R.Describes read write) {hwrite : ∀ x, (write x).kind = .object}
    {extra : ρ → FreeForm} (hothers : R.others = .kept extra)
    (hfields : R.fields.Forall fun e => e.2.slot.Exact) : (R.form read write hwrite).Exact :=
  h.carries hothers hfields (fun _ => not_false) fun _ _ _ _ => not_false

/-- A record that ignores other members carries what its fields do and nothing else. It may be read
from a list, but it is written as an object. -/
theorem carries_closed (h : R.Describes read write) {hwrite : ∀ x, (write x).kind = .object}
    {least : ℕ} (hothers : R.others = .ignored least)
    (hfields : R.fields.Forall fun e => e.2.slot.Carries (fun path => Q (.member e.1 :: path))
      fun path => L (.member e.1 :: path))
    (hL₀ : ∀ y, L [] y ↔ y.kind ≠ .object) (hitem : ∀ i path y, L (.item i :: path) y)
    (hL : ∀ k ∉ R.names, ∀ path y, L (.member k :: path) y) :
    (R.form read write hwrite).Carries Q L := by
  intro j x hj hx
  obtain ⟨m, hm, -⟩ := h.read_iff.mp hx
  rw [members?, hothers] at hm
  obtain ⟨w, hw⟩ := Json.eq_obj_of_kind (hwrite x)
  cases j with
  | obj fields =>
    have hobject : ¬ L [] (.obj fields) := fun hlost => (hL₀ _).mp hlost rfl
    refine h.carried_obj hwrite hj hx hfields hobject fun k hk path y _ => ?_
    refine iff_of_false ?_ (not_not.mpr (hL k hk path y))
    rintro ⟨z, hz, -⟩
    rw [rest, hothers] at hz
    exact nomatch hz
  | arr items =>
    intro path y hy _
    match path, hy with
    | [], hy =>
      obtain rfl := Option.some.inj hy
      refine iff_of_false ?_ (not_not.mpr ((hL₀ _).mpr nofun))
      rintro ⟨z, hz, hsaid⟩
      obtain rfl : write x = z := Option.some.inj hz
      rw [hw] at hsaid
      rcases hsaid with hsaid | ⟨-, q, hq, -⟩
      · exact nomatch hsaid
      · exact nomatch hq
    | .item i :: path, hy =>
      refine iff_of_false ?_ (not_not.mpr (hitem i path y))
      rintro ⟨z, hz, -⟩
      have hnone : (write x).descend? (.item i :: path) = none := by rw [hw]; rfl
      exact nomatch hnone.symm.trans hz
    | .member k :: path, hy => exact nomatch hy
  | _ => exact nomatch hm

end RecordFormat.Describes

end BuildFleet
