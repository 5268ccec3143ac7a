import BuildFleet.Pod.Merge
import BuildFleet.Proofs.Merge.Layers

/-!
# The rules of merging

The records of a pod merge alike, each after the rules of its fields. `Rules α` is what there is to
know about merging values of a type: the merge itself, and what the results about it speak of. There
are few ways to merge, and each has its own definition here; the rules of a record are put together
from those of its fields (`Rules.record`).

A place in a value is reached by steps, and a leaf is what stands at a place (`Rules.look`).
Elements of keyed lists are addressed by their key, not by position.
-/

namespace BuildFleet

/-! ## Places -/

/-- A step from a value into it. -/
inductive Step where
  /-- To a field of a record. -/
  | field (name : String)
  /-- To the members of a record without a field of their own. -/
  | rest
  /-- To the value under a key of a map or an object. -/
  | member (key : String)
  /-- To the first element of a keyed list with the key. -/
  | element (key : String)
  deriving DecidableEq

/-- What a step adds to the path of a mismatch. The members of a record without a field of their own
stand beside its fields. -/
def Step.segments : Step → MergePath
  | field name => [.field name]
  | rest => []
  | member key => [.field key]
  | element key => [.element key]

/-- A place in a value, outermost step first. -/
abbrev Place := List Step

/-- The path under which a mismatch at the place is reported. -/
def Place.path (place : Place) : MergePath := place.flatMap Step.segments

/-- What stands at a place. -/
inductive Leaf where
  /-- A record, map or keyed list, with places inside. -/
  | inner
  /-- A free-form object, with places inside. -/
  | object
  | text (s : String)
  | flag (b : Bool)
  | number (n : Int)
  /-- A port, of which zero says nothing. -/
  | port (n : Int)
  | quantity (q : Quantity)
  /-- A list of texts without keys. -/
  | texts (l : List String)
  /-- A list of tolerations, which have no keys. -/
  | tolerations (l : List Toleration)
  /-- A free-form value other than an object. -/
  | json (v : Json)

namespace Leaf

/-- Whether the leaf says something. -/
def sets : Leaf → Bool
  | inner => false
  | object => false
  | text s => !s.isEmpty
  | flag _ => true
  | number _ => true
  | port n => n != 0
  | quantity _ => true
  | texts l => !l.isEmpty
  | tolerations l => !l.isEmpty
  | json .null => false
  | json (.arr items) => !items.isEmpty
  | json _ => true

/-- Whether the leaf is a free-form null. -/
def isNull : Leaf → Bool
  | json .null => true
  | _ => false

/-- The kind of a free-form value. -/
def kind? : Leaf → Option JsonKind
  | object => some .object
  | json v => some v.kind
  | _ => none

/-- A leaf without a kind is not null. -/
theorem isNull_of_kind?_eq_none : ∀ {leaf : Leaf}, leaf.kind? = none → leaf.isNull = false
  | .inner, _ | .text _, _ | .flag _, _ | .number _, _ | .port _, _ | .quantity _, _ | .texts _, _
  | .tolerations _, _ => rfl

/-- What stands at a place where a layer has been laid over a base: the layer's leaf if it says
something, or if the base has nothing there or a null, and else the base's. -/
def onto : (layer base : Option Leaf) → Option Leaf
  | none, base => base
  | some l, none => some l
  | some l, some b => if l.sets || b.isNull then some l else some b

/-- No leaf changes nothing. -/
@[simp] theorem onto_none_left (base : Option Leaf) : onto none base = base := rfl

/-- Over no leaf any leaf stays as it is. -/
@[simp] theorem onto_none_right (layer : Option Leaf) : onto layer none = layer := by
  cases layer <;> rfl

/-- A leaf over itself is itself. -/
@[simp] theorem onto_self (leaf : Option Leaf) : onto leaf leaf = leaf := by
  cases leaf with
  | none => rfl
  | some l => exact ite_self (some l)

end Leaf

namespace Json

/-- The leaf of a free-form value. -/
def leaf : Json → Leaf
  | obj _ => .object
  | v => .json v

/-- The value at a place that is reached through objects only. -/
def reach (v : Json) : Place → Option Json
  | [] => some v
  | .member k :: place => (v.member? k).bind fun w => w.reach place
  | _ :: _ => none

/-- Every value in the first one is still there in the second, and is of the same kind unless it was
null. A list that had items has some. -/
def Retains (b v : Json) : Prop :=
  ∀ place x, b.reach place = some x → ∃ y, v.reach place = some y
    ∧ (x.kind ≠ .null → y.kind = x.kind) ∧ (x.leaf.sets = true → y.leaf.sets = true)

end Json

/-! ## Rules -/

/-- How values of a type merge, and what is said about it. -/
structure Rules (α : Type) where
  /-- Lays the second value over the first. -/
  merge : α → α → Merged α
  /-- Both values have the same key, as far as they have one. -/
  Fits : α → α → Prop
  /-- No keyed list in the value has two elements with the same key. -/
  Distinct : α → Prop
  /-- Nothing that the first value has is missing from the second. -/
  Retains : α → α → Prop
  /-- What stands at a place in the value. -/
  look : α → Place → Option Leaf

/-- A part of a value, and its rules. -/
structure Facet (α : Type) where
  {Field : Type}
  /-- The part. -/
  get : α → Field
  /-- The rules of the part. -/
  rules : Rules Field

namespace Rules

variable {α : Type}

/-- The outcome of a merge that succeeds. -/
def lay (r : Rules α) (base layer : α) : Option α := (r.merge base layer).value?

/-- The rules, as an instance for merges of what contains such values. -/
abbrev mergeable (r : Rules α) : Mergeable α := ⟨r.merge⟩

/-- A value that is replaced as a whole, or not at all. -/
def single (m : α → α → Merged α) (leaf : α → Leaf) : Rules α where
  merge := m
  Fits _ _ := True
  Distinct _ := True
  Retains b v := (leaf b).sets = true → (leaf v).sets = true
  look
    | x, [] => some (leaf x)
    | _, _ :: _ => none

/-- The key of an element, or a part of it, which stays as it is. -/
def fixed (leaf : α → Leaf) : Rules α where
  merge b _ := .done b
  Fits b l := b = l
  Distinct _ := True
  Retains b v := v = b
  look
    | x, [] => some (leaf x)
    | _, _ :: _ => none

abbrev text : Rules String := single BuildFleet.merge .text

abbrev flag : Rules Bool := single BuildFleet.merge .flag

abbrev number : Rules Int := single BuildFleet.merge .number

abbrev quantity : Rules Quantity := single BuildFleet.merge .quantity

/-- A port, which zero does not replace. -/
abbrev port : Rules Int := single (fun b l => .done (if l = 0 then b else l)) .port

abbrev texts : Rules (List String) := single (fun b l => .done (atomic b l)) .texts

abbrev tolerations : Rules (List Toleration) := single (fun b l => .done (atomic b l)) .tolerations

/-- A value that may be absent. -/
def optional (r : Rules α) : Rules (Option α) where
  merge := letI := r.mergeable; BuildFleet.merge
  Fits b l := ∀ x ∈ b, ∀ y ∈ l, r.Fits x y
  Distinct o := ∀ x ∈ o, r.Distinct x
  Retains b v := ∀ x ∈ b, ∃ y ∈ v, r.Retains x y
  look o place := o.bind fun x => r.look x place

/-- A keyed list. What it retains are its elements, each in its position. -/
def keyed (key : α → String) (r : Rules α) : Rules (List α) where
  merge := letI := r.mergeable; BuildFleet.keyed key
  Fits _ _ := True
  Distinct l := (l.map key).Nodup ∧ ∀ x ∈ l, r.Distinct x
  Retains b v := ∀ (i : Nat) (x : α), b[i]? = some x →
    ∃ y, v[i]? = some y ∧ key y = key x ∧ r.Retains x y
  look
    | _, [] => some .inner
    | l, .element k :: place => (l.find? (key · == k)).bind fun x => r.look x place
    | _, _ :: _ => none

/-- Free-form JSON. -/
def json : Rules Json where
  merge := BuildFleet.merge
  Fits _ _ := True
  Distinct _ := True
  Retains := Json.Retains
  look v place := (v.reach place).map Json.leaf

/-- A free-form object. -/
def freeForm : Rules FreeForm where
  merge := BuildFleet.merge
  Fits _ _ := True
  Distinct _ := True
  Retains b v := json.Retains b.toJson v.toJson
  look f place := json.look f.toJson place

/-- A value with parts, each one step away. -/
def composite (m : α → α → Merged α) (fits : α → α → Prop) (part : Step → Option (Facet α)) :
    Rules α where
  merge := m
  Fits := fits
  Distinct x := ∀ s, ∀ f ∈ part s, f.rules.Distinct (f.get x)
  Retains b v := ∀ s, ∀ f ∈ part s, f.rules.Retains (f.get b) (f.get v)
  look
    | _, [] => some .inner
    | x, s :: place => (part s).bind fun f => f.rules.look (f.get x) place

/-- The parts of a map: under each key there may be a value. -/
def entry (r : Rules α) : Step → Option (Facet (Dict α))
  | .member k => some ⟨fun d => d.get? k, r.optional⟩
  | _ => none

/-- A map. -/
abbrev dict (r : Rules α) : Rules (Dict α) :=
  letI := r.mergeable
  composite BuildFleet.merge (fun _ _ => True) (entry r)

/-- A record, given by its fields. -/
abbrev record [Mergeable α] (parts : List (Step × Facet α)) : Rules α :=
  composite BuildFleet.merge (fun _ _ => True) fun s => parts.lookup s

/-- A record that is an element of a keyed list. -/
abbrev element [Mergeable α] (key : α → String) (parts : List (Step × Facet α)) : Rules α :=
  composite BuildFleet.merge (fun b l => key b = key l) fun s => parts.lookup s

/-! ## Keys -/

@[simp] theorem fits_single (m : α → α → Merged α) (leaf : α → Leaf) (b l : α) :
    (single m leaf).Fits b l := trivial

@[simp] theorem fits_fixed {leaf : α → Leaf} {b l : α} : (fixed leaf).Fits b l ↔ b = l := Iff.rfl

@[simp] theorem fits_freeForm (b l : FreeForm) : freeForm.Fits b l := trivial

/-- Optional values fit if their values do. -/
@[simp] theorem fits_optional {r : Rules α} {b l : Option α} :
    r.optional.Fits b l ↔ ∀ x ∈ b, ∀ y ∈ l, r.Fits x y := Iff.rfl

@[simp] theorem fits_keyed (key : α → String) (r : Rules α) (b l : List α) :
    (keyed key r).Fits b l := trivial

@[simp] theorem fits_composite {m : α → α → Merged α} {fits : α → α → Prop}
    {part : Step → Option (Facet α)} {b l : α} :
    (composite m fits part).Fits b l ↔ fits b l := Iff.rfl

/-! ## Keys that are not repeated -/

@[simp] theorem distinct_single (m : α → α → Merged α) (leaf : α → Leaf) (x : α) :
    (single m leaf).Distinct x := trivial

@[simp] theorem distinct_fixed (leaf : α → Leaf) (x : α) : (fixed leaf).Distinct x := trivial

@[simp] theorem distinct_freeForm (x : FreeForm) : freeForm.Distinct x := trivial

@[simp] theorem distinct_optional {r : Rules α} {o : Option α} :
    r.optional.Distinct o ↔ ∀ x ∈ o, r.Distinct x := Iff.rfl

/-- A keyed list has no doubled keys if its own are different and no element has any. -/
@[simp] theorem distinct_keyed {r : Rules α} {key : α → String} {l : List α} :
    (r.keyed key).Distinct l ↔ (l.map key).Nodup ∧ ∀ x ∈ l, r.Distinct x := Iff.rfl

/-- A map has no doubled keys if no value of its type has any. -/
@[simp] theorem distinct_dict {r : Rules α} {d : Dict α} (h : ∀ x, r.Distinct x) :
    r.dict.Distinct d := by
  intro s f hf
  cases s with
  | member k =>
    obtain rfl := Option.some.inj hf
    exact fun x _ => h x
  | _ => exact nomatch hf

/-! ## Values that are replaced -/

/-- A value that is set replaces the base's. -/
theorem lay_single {m : α → α → Merged α} {leaf : α → Leaf}
    (hmerge : ∀ b l, m b l = .done (if (leaf l).sets then l else b)) (b l : α) :
    (single m leaf).lay b l = some (if (leaf l).sets then l else b) :=
  congrArg Merged.value? (hmerge b l)

/-! ## Values that may be absent -/

/-- Over nothing an optional value stays as it is. -/
theorem lay_optional_none_left (r : Rules α) (l : Option α) : r.optional.lay none l = some l := by
  cases l <;> rfl

/-- Nothing over an optional value leaves it as it is. -/
theorem lay_optional_none_right (r : Rules α) (b : Option α) : r.optional.lay b none = some b := by
  cases b <;> rfl

/-- Two values that are there merge as values. -/
theorem lay_optional_some (r : Rules α) (b l : α) :
    r.optional.lay (some b) (some l) = (r.lay b l).map some :=
  Merged.value?_map some _

/-- Either one side gives way to the other, or two values are merged. -/
theorem lay_optional_cases {r : Rules α} {b l v : Option α} (h : r.optional.lay b l = some v) :
    (b = none ∧ v = l) ∨ (l = none ∧ v = b)
      ∨ ∃ x y w, b = some x ∧ l = some y ∧ v = some w ∧ r.lay x y = some w := by
  cases b with
  | none =>
    rw [r.lay_optional_none_left] at h
    exact Or.inl ⟨rfl, (Option.some.inj h).symm⟩
  | some x =>
    cases l with
    | none =>
      rw [r.lay_optional_none_right] at h
      exact Or.inr (Or.inl ⟨rfl, (Option.some.inj h).symm⟩)
    | some y =>
      rw [r.lay_optional_some] at h
      obtain ⟨w, hw, rfl⟩ := Option.map_eq_some_iff.mp h
      exact Or.inr (Or.inr ⟨x, y, w, rfl, rfl, rfl, hw⟩)

end Rules

end BuildFleet
