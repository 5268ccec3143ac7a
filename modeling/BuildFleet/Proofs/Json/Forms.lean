import BuildFleet.Proofs.Dict.Fold
import BuildFleet.Proofs.Json.Members
import Mathlib.Data.List.Forall2
import BuildFleet.Resources.Basic

/-!
# The JSON forms of values

`Form α` is what there is to know about values of a type as JSON: how they are read and written, and
when another JSON value has all that a value says. There are few ways to keep a value, and each has
its own definition here; the form of a record is put together from those of its fields
(`RecordFormat.form`), each of which is kept in one of three ways (`Slot`).

> `RecordFormat.Describes.read_iff`: what a record is read from;
> `RecordFormat.Describes.member?_write`: what is written under the name of a field.

That a record is read and written field by field is `RecordFormat.Describes`; `Collects` goes
through its reader, one field at a time.
-/

namespace BuildFleet

/-- A list that is made item by item has as many items, each made of the one in its place. -/
theorem forall₂_of_mapM {α β : Type} {f : α → Option β} : ∀ {xs : List α} {ys : List β},
    xs.mapM f = some ys → List.Forall₂ (fun x y => f x = some y) xs ys
  | [], _, h => by
    obtain rfl := Option.some.inj h
    exact .nil
  | x :: xs, _, h => by
    obtain ⟨y, ys, hy, hys, rfl⟩ := mapM_cons_eq_some.mp h
    exact .cons hy (forall₂_of_mapM hys)

section Entries

variable {α β : Type} {f : α → Option β}

/-- Entries that are made one by one have the keys of those that they are made of. -/
theorem keys_of_mapM : ∀ {l : List (String × α)} {r : List (String × β)},
    (l.mapM fun e => (f e.2).map fun v => (e.1, v)) = some r → r.map Prod.fst = l.map Prod.fst
  | [], _, h => by
    obtain rfl := Option.some.inj h
    rfl
  | e :: rest, _, h => by
    obtain ⟨y, ys, hy, hys, rfl⟩ := mapM_cons_eq_some.mp h
    obtain ⟨v, -, rfl⟩ := Option.map_eq_some_iff.mp hy
    rw [List.map_cons, List.map_cons, keys_of_mapM hys]

/-- What is found among entries that are made one by one is made of what is found among the others.
-/
theorem get?_of_mapM {k : String} {x : α} : ∀ {l : List (String × α)} {r : List (String × β)},
    (l.mapM fun e => (f e.2).map fun v => (e.1, v)) = some r → Entries.get? k l = some x →
      ∃ y, f x = some y ∧ Entries.get? k r = some y
  | [], _, _, hx => nomatch hx
  | (k', x') :: rest, _, h, hx => by
    obtain ⟨e, others, he, hothers, rfl⟩ := mapM_cons_eq_some.mp h
    obtain ⟨y, hy, rfl⟩ := Option.map_eq_some_iff.mp he
    rw [Entries.get?] at hx ⊢
    by_cases hk : k' = k
    · rw [if_pos hk] at hx ⊢
      exact ⟨y, Option.some.inj hx ▸ hy, rfl⟩
    · rw [if_neg hk] at hx ⊢
      exact get?_of_mapM hothers hx

end Entries

/-- How the values of a type are kept as JSON. -/
structure Form (α : Type) where
  /-- The value that a JSON value stands for. -/
  read : Json → Option α
  /-- The JSON value that stands for a value. -/
  write : α → Json
  /-- What the value says is said by the JSON value. -/
  FoundIn : α → Json → Prop
  /-- No value is written as null, which would read as an absent one. -/
  write_ne_null : ∀ x, (write x).kind ≠ .null

namespace Form

variable {α : Type}

/-- The value is read again from what is written of it. -/
def ReadsBack (f : Form α) (x : α) : Prop := f.read (f.write x) = some x

def text : Form String where
  read := Json.text?
  write := .str
  FoundIn s j := j = .str s
  write_ne_null _ h := nomatch h

def flag : Form Bool where
  read := Json.bool?
  write := .bool
  FoundIn b j := j = .bool b
  write_ne_null _ h := nomatch h

/-- An integer from `lo` to `hi`. -/
def integer (lo hi : Int) : Form Int where
  read := Json.intIn? lo hi
  write := .int
  FoundIn n j := j = .int n
  write_ne_null _ h := nomatch h

/-- An integer of 32 signed bits. -/
def int32 : Form Int := integer (-0x80000000) 0x7fffffff

/-- An integer of 64 signed bits. -/
def int64 : Form Int := integer (-0x8000000000000000) 0x7fffffffffffffff

def quantity : Form Quantity where
  read := Quantity.ofJson?
  write := Quantity.toJson
  FoundIn q j := j = .str q.text
  write_ne_null _ h := nomatch h

/-- A free-form object, which has no fields. -/
def freeForm : Form FreeForm where
  read := FreeForm.ofJson?
  write := FreeForm.toJson
  FoundIn _ _ := True
  write_ne_null _ h := nomatch h

def list (f : Form α) : Form (List α) where
  read := Json.listOf? f.read
  write xs := .arr (xs.map f.write)
  FoundIn xs j := ∃ items, j = .arr items ∧ List.Forall₂ f.FoundIn xs items
  write_ne_null _ h := nomatch h

def dict (f : Form α) : Form (Dict α) where
  read := Json.dictOf? f.read
  write := Json.ofDict f.write
  FoundIn d j := j.kind = .object
    ∧ ∀ k x, d.get? k = some x → ∃ v, j.member? k = some v ∧ f.FoundIn x v
  write_ne_null _ h := nomatch h

end Form

/-! ## Fields -/

/-- How a record keeps the value of a field, if it writes the field at all. -/
structure Slot (α : Type) where
  /-- The value, given what the record has under the name of the field. -/
  read : Option Json → Option α
  /-- What is written under the name of the field. -/
  write : α → Option Json
  /-- What the field says is said by what a JSON value has under the name. -/
  FoundIn : α → Option Json → Prop

namespace Slot

variable {α : Type}

/-- The value is read again from what is written of it. -/
def ReadsBack (s : Slot α) (x : α) : Prop := s.read (s.write x) = some x

/-- A field that has to be there. -/
def required (f : Form α) : Slot α where
  read o := o.bind f.read
  write x := some (f.write x)
  FoundIn x o := ∃ j ∈ o, f.FoundIn x j

/-- A field that stands for a default when it is left out, and is left out if it is blank. -/
def defaulted (f : Form α) (default : α) (blank : α → Bool) : Slot α where
  read
    | none => some default
    | some j => f.read j
  write x := if blank x then none else some (f.write x)
  FoundIn x o := blank x = false → ∃ j ∈ o, f.FoundIn x j

/-- A field that may be left out or null. -/
def optional (f : Form α) : Slot (Option α) where
  read
    | none => some none
    | some .null => some none
    | some j => (f.read j).map some
  write o := o.map f.write
  FoundIn x o := ∀ y ∈ x, ∃ j ∈ o, f.FoundIn y j

/-- A field that is there and not null is read. -/
theorem read_optional_of_ne_null (f : Form α) {j : Json} (hj : j.kind ≠ .null) :
    (optional f).read (some j) = (f.read j).map some := by
  cases j with
  | null => exact absurd rfl hj
  | _ => rfl

/-- A text, left out if it is empty. -/
abbrev text : Slot String := defaulted .text "" (·.isEmpty)

/-- A list, left out if it is empty. -/
abbrev list (f : Form α) : Slot (List α) := defaulted (.list f) [] (·.isEmpty)

/-- A map, left out if it is empty. -/
abbrev dict (f : Form α) : Slot (Dict α) := defaulted (.dict f) .empty (·.isEmpty)

/-- A field that has a default and is always written. -/
abbrev always (f : Form α) (default : α) : Slot α := defaulted f default fun _ => false

end Slot

/-- A field of a record, and how it is kept. -/
structure RecordField (ρ : Type) where
  {Value : Type}
  /-- The field. -/
  get : ρ → Value
  /-- How it is kept. -/
  slot : Slot Value

namespace RecordField

variable {ρ α : Type} (get : ρ → α) (name : String) (x : ρ)

/-- What is written of a field. -/
def members (f : RecordField ρ) (name : String) (x : ρ) : Members :=
  (f.slot.write (f.get x)).elim [] fun j => [(name, j)]

/-- Under the name of a field there is what its slot writes. -/
theorem member?_members_self (f : RecordField ρ) :
    (Json.ofFields (f.members name x)).member? name = f.slot.write (f.get x) := by
  unfold members
  cases f.slot.write (f.get x) with
  | none => rfl
  | some j => exact Members.member?_always_self

/-- A field is not written under other names. -/
theorem member?_members_of_ne (f : RecordField ρ) {k : String} (hne : name ≠ k) :
    (Json.ofFields (f.members name x)).member? k = none := by
  unfold members
  cases f.slot.write (f.get x) with
  | none => rfl
  | some j => exact Members.member?_always_of_ne hne

@[simp] theorem members_required (f : Form α) :
    (⟨get, .required f⟩ : RecordField ρ).members name x = Members.always name (f.write (get x)) :=
  rfl

@[simp] theorem members_always (f : Form α) (default : α) :
    (⟨get, .always f default⟩ : RecordField ρ).members name x
      = Members.always name (f.write (get x)) :=
  rfl

@[simp] theorem members_text (get : ρ → String) :
    (⟨get, .text⟩ : RecordField ρ).members name x = Members.text name (get x) := by
  show Option.elim (if (get x).isEmpty then none else some (Json.str (get x))) [] _ = _
  unfold Members.text
  split <;> rfl

@[simp] theorem members_list (get : ρ → List α) (f : Form α) :
    (⟨get, .list f⟩ : RecordField ρ).members name x = Members.list name f.write (get x) := by
  show Option.elim (if (get x).isEmpty then none else some (Json.arr ((get x).map f.write))) [] _
    = _
  unfold Members.list
  split <;> rfl

@[simp] theorem members_dict (get : ρ → Dict α) (f : Form α) :
    (⟨get, .dict f⟩ : RecordField ρ).members name x = Members.dict name f.write (get x) := by
  show Option.elim (if (get x).isEmpty then none else some (Json.ofDict f.write (get x))) [] _ = _
  unfold Members.dict
  split <;> rfl

@[simp] theorem members_optional (get : ρ → Option α) (f : Form α) :
    (⟨get, .optional f⟩ : RecordField ρ).members name x
      = Members.option name f.write (get x) := by
  show Option.elim ((get x).map f.write) [] _ = _
  cases get x <;> rfl

end RecordField

/-! ## Records -/

/-- What a record does with members that it has no field for. -/
inductive Others (ρ : Type) where
  /-- It ignores them. Such a record may also be a list of the values of its first fields, of which
  at least so many have to be there. -/
  | ignored (least : Nat)
  /-- It keeps them in a part of its own. -/
  | kept (extra : ρ → FreeForm)

/-- The fields of a record under their names, and what it does with other members. -/
structure RecordFormat (ρ : Type) where
  fields : List (String × RecordField ρ)
  others : Others ρ

namespace RecordFormat

variable {ρ : Type} (R : RecordFormat ρ)

/-- The names of the fields. -/
def names : List String := R.fields.map Prod.fst

/-- The members of a JSON value that may be such a record. -/
def members? : Json → Option Members :=
  match R.others with
  | .ignored least => Members.ofClosed? R.names least
  | .kept _ => Members.ofOpen?

/-- What is kept of the members without a field. -/
def rest (m : Members) : FreeForm :=
  match R.others with
  | .ignored _ => .empty
  | .kept _ => FreeForm.ofMembers (m.without R.names)

/-- What is kept of other members has none of the names. -/
theorem avoids_rest (m : Members) : (R.rest m).Avoids R.names := by
  unfold rest
  split
  · exact FreeForm.avoids_empty _
  · exact FreeForm.avoids_ofMembers m _

/-- The members without a field that a record has. -/
def extra (x : ρ) : FreeForm :=
  match R.others with
  | .ignored _ => .empty
  | .kept extra => extra x

/-- What is written of a record. -/
def written (x : ρ) : Members := R.fields.flatMap (fun e => e.2.members e.1 x) ++ (R.extra x).fields

/-- The form of a record. Another JSON value says what the record says if it does so of all its
fields. -/
def form (read : Json → Option ρ) (write : ρ → Json) (hwrite : ∀ x, (write x).kind = .object) :
    Form ρ where
  read := read
  write := write
  FoundIn x j := j.kind = .object
    ∧ ∀ e ∈ R.fields, e.2.slot.FoundIn (e.2.get x) (j.member? e.1)
  write_ne_null x h := nomatch (hwrite x).symm.trans h

end RecordFormat

/-! ## Members of a record -/

/-- Members without some names have what they had under all others. -/
theorem Members.get?_without (k : String) (m : Members) (names : List String) :
    Entries.get? k (m.without names) = if k ∈ names then none else Entries.get? k m := by
  rw [without, Entries.get?_filterKeys]
  by_cases hk : k ∈ names
  · rw [if_pos hk, if_neg (by simpa using hk)]
  · rw [if_neg hk, if_pos (by simpa using hk)]

namespace RecordFormat

variable {ρ : Type} {x : ρ}

/-- Fields are not written under names that none of them has. -/
theorem member?_ofFields_fields_of_notMem {k : String} : ∀ {fields : List (String × RecordField ρ)},
    k ∉ fields.map Prod.fst →
      (Json.ofFields (fields.flatMap fun e => e.2.members e.1 x)).member? k = none
  | [], _ => rfl
  | e :: rest, hk => by
    obtain ⟨hne, hrest⟩ := not_or.mp (List.mem_cons.not.mp hk)
    rw [List.flatMap_cons, Json.member?_ofFields_append, member?_ofFields_fields_of_notMem hrest,
      Option.none_or, RecordField.member?_members_of_ne _ _ _ (Ne.symm hne)]

/-- Of fields with different names each is found under its own. -/
theorem member?_ofFields_fields {e : String × RecordField ρ} :
    ∀ {fields : List (String × RecordField ρ)}, (fields.map Prod.fst).Nodup → e ∈ fields →
      (Json.ofFields (fields.flatMap fun e => e.2.members e.1 x)).member? e.1
        = e.2.slot.write (e.2.get x)
  | first :: rest, hnodup, he => by
    obtain ⟨hfirst, hrest⟩ := List.nodup_cons.mp hnodup
    rw [List.flatMap_cons, Json.member?_ofFields_append]
    rcases List.mem_cons.mp he with rfl | he
    · rw [member?_ofFields_fields_of_notMem hfirst, Option.none_or,
        RecordField.member?_members_self]
    · have hne : first.1 ≠ e.1 := fun hname => hfirst (hname ▸ List.mem_map_of_mem he)
      rw [member?_ofFields_fields hrest he, RecordField.member?_members_of_ne _ _ _ hne,
        Option.or_none]

end RecordFormat

/-! ## Reading and writing -/

/-- The rest of a record's reader reads the listed fields from the members, and comes to a record
with them if all can be read. Of the fields before these it is known what they are. -/
structure Collects {ρ : Type} (m : Members) (known : ρ → Prop)
    (fields : List (String × RecordField ρ)) (o : Option ρ) : Prop where
  exists_value : (∀ e ∈ fields, ∃ w, e.2.slot.read (Entries.get? e.1 m) = some w) → ∃ x, o = some x
  read_fields : ∀ x, o = some x →
    known x ∧ ∀ e ∈ fields, e.2.slot.read (Entries.get? e.1 m) = some (e.2.get x)

namespace Collects

variable {ρ : Type} {m : Members} {known : ρ → Prop} {e : String × RecordField ρ}
  {fields : List (String × RecordField ρ)}

/-- Nothing is left to read. -/
theorem pure {x : ρ} (h : known x) : Collects m known [] (some x) where
  exists_value _ := ⟨x, rfl⟩
  read_fields _ hx := ⟨Option.some.inj hx ▸ h, fun _ he => absurd he List.not_mem_nil⟩

/-- The next field is read, and the others after it. -/
theorem field {o : Option e.2.Value} {next : e.2.Value → Option ρ}
    (ho : o = e.2.slot.read (Entries.get? e.1 m))
    (h : ∀ w, Collects m (fun x => known x ∧ e.2.get x = w) fields (next w)) :
    Collects m known (e :: fields) (o >>= next) where
  exists_value hs := by
    obtain ⟨⟨w, hw⟩, hrest⟩ := List.forall_mem_cons.mp hs
    obtain ⟨x, hx⟩ := (h w).exists_value hrest
    exact ⟨x, Option.bind_eq_some_iff.mpr ⟨w, ho.trans hw, hx⟩⟩
  read_fields x hx := by
    obtain ⟨w, hw, hx⟩ := Option.bind_eq_some_iff.mp hx
    obtain ⟨⟨hknown, hget⟩, hrest⟩ := (h w).read_fields x hx
    refine ⟨hknown, List.forall_mem_cons.mpr ⟨?_, hrest⟩⟩
    rw [← ho, hw, hget]

end Collects

namespace RecordFormat

/-- A record is read and written field by field, and the listed fields are all that it has besides
members without a field. -/
structure Describes {ρ : Type} (R : RecordFormat ρ) (read : Json → Option ρ) (write : ρ → Json) :
    Prop where
  nodup : R.names.Nodup
  reads : ∃ next, read = (fun j => R.members? j >>= next)
    ∧ ∀ m, Collects m (fun x => R.rest m = R.extra x) R.fields (next m)
  ext : ∀ x y, (∀ e ∈ R.fields, e.2.get x = e.2.get y) → R.extra x = R.extra y → x = y
  writes : ∀ x, write x = Json.ofFields (R.written x)

namespace Describes

variable {ρ : Type} {R : RecordFormat ρ} {read : Json → Option ρ} {write : ρ → Json}

/-- A record is read exactly if all its fields are, and the members without a field are kept. -/
theorem read_iff (h : R.Describes read write) {j : Json} {x : ρ} : read j = some x
    ↔ ∃ m, R.members? j = some m
      ∧ (∀ e ∈ R.fields, e.2.slot.read (Entries.get? e.1 m) = some (e.2.get x))
      ∧ R.rest m = R.extra x := by
  obtain ⟨next, rfl, hcollects⟩ := h.reads
  constructor
  · intro hx
    obtain ⟨m, hm, hx⟩ := Option.bind_eq_some_iff.mp hx
    obtain ⟨hextra, hfields⟩ := (hcollects m).read_fields x hx
    exact ⟨m, hm, hfields, hextra⟩
  · rintro ⟨m, hm, hfields, hextra⟩
    obtain ⟨y, hy⟩ := (hcollects m).exists_value fun e he => ⟨_, hfields e he⟩
    obtain ⟨hextra', hfields'⟩ := (hcollects m).read_fields y hy
    have hyx : y = x := h.ext y x
      (fun e he => Option.some.inj ((hfields' e he).symm.trans (hfields e he)))
      (hextra'.symm.trans hextra)
    exact Option.bind_eq_some_iff.mpr ⟨m, hm, hyx ▸ hy⟩

/-- What is written under the name of a field, unless a member without a field has the name. -/
theorem member?_write (h : R.Describes read write) {e : String × RecordField ρ} (he : e ∈ R.fields)
    (x : ρ) : (write x).member? e.1
      = ((R.extra x).toJson.member? e.1).or (e.2.slot.write (e.2.get x)) := by
  rw [h.writes, written, Json.member?_ofFields_append, member?_ofFields_fields h.nodup he,
    FreeForm.member?_ofFields_fields]

/-- What is written under other names is what the record keeps there. -/
theorem member?_write_of_notMem (h : R.Describes read write) {k : String} (hk : k ∉ R.names)
    (x : ρ) : (write x).member? k = (R.extra x).toJson.member? k := by
  rw [h.writes, written, Json.member?_ofFields_append, FreeForm.member?_ofFields_fields,
    member?_ofFields_fields_of_notMem hk, Option.or_none]

end Describes

end RecordFormat

end BuildFleet
