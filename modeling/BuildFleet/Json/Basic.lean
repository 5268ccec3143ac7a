import BuildFleet.Decimal.Binary64
import BuildFleet.Entries

/-!
# JSON values

A JSON value with its numbers split into integers and binary64 values, because a reader of
manifests has to tell `2` from `2.0`. Objects are entry lists. A value is *well formed* if
every object in it lists its members in strictly increasing key order; `canonical` brings
any value into that form, a later member replacing an earlier one of the same name, and

> `canonical_wellFormed`: the result is well formed;
> `canonical_eq_self`: a well-formed value is left as it is.
-/

namespace BuildFleet

/-- A JSON value. -/
inductive Json where
  /-- The null value. -/
  | null
  /-- A truth value. -/
  | bool (b : Bool)
  /-- A number written without fraction and exponent. -/
  | int (n : Int)
  /-- Any other number. -/
  | float (x : Binary64)
  /-- A text. -/
  | str (s : String)
  /-- A list. -/
  | arr (items : List Json)
  /-- An object, as its members. -/
  | obj (fields : List (String × Json))
  deriving Inhabited

/-- The shapes that a JSON value can have. -/
inductive JsonKind where
  | null | boolean | number | string | array | object
  deriving DecidableEq, Repr, Inhabited

/-- The name of a shape in messages. -/
def JsonKind.name : JsonKind → String
  | null => "null"
  | boolean => "boolean"
  | number => "number"
  | string => "string"
  | array => "array"
  | object => "object"

namespace Json

/-- The shape of a value. -/
def kind : Json → JsonKind
  | null => .null
  | bool _ => .boolean
  | int _ => .number
  | float _ => .number
  | str _ => .string
  | arr _ => .array
  | obj _ => .object

mutual

/-- Every object in the value lists its members in strictly increasing key order. -/
def WellFormed : Json → Prop
  | arr items => AllWellFormed items
  | obj fields => Entries.Sorted fields ∧ FieldsWellFormed fields
  | _ => True

/-- Every item is well formed. -/
def AllWellFormed : List Json → Prop
  | [] => True
  | item :: rest => item.WellFormed ∧ AllWellFormed rest

/-- Every member's value is well formed. -/
def FieldsWellFormed : List (String × Json) → Prop
  | [] => True
  | (_, v) :: rest => v.WellFormed ∧ FieldsWellFormed rest

end

mutual

/-- The value with the members of every object in key order; of several members of one name
the last one counts. -/
def canonical : Json → Json
  | arr items => arr (canonicalItems items)
  | obj fields => obj (Entries.ofList (canonicalFields fields))
  | null => null
  | bool b => bool b
  | int n => int n
  | float x => float x
  | str s => str s

/-- Every item in canonical form. -/
def canonicalItems : List Json → List Json
  | [] => []
  | item :: rest => item.canonical :: canonicalItems rest

/-- Every member's value in canonical form. -/
def canonicalFields : List (String × Json) → List (String × Json)
  | [] => []
  | (k, v) :: rest => (k, v.canonical) :: canonicalFields rest

end

/-- The members of an object are well-formed if the value of each of them is. -/
theorem fieldsWellFormed_iff {fields : List (String × Json)} :
    FieldsWellFormed fields ↔ ∀ e ∈ fields, e.2.WellFormed := by
  induction fields with
  | nil => simp [FieldsWellFormed]
  | cons e rest ih =>
    obtain ⟨k, v⟩ := e
    simp [FieldsWellFormed, ih]

/-- The items of a list are well-formed if each of them is. -/
theorem allWellFormed_iff {items : List Json} :
    AllWellFormed items ↔ ∀ v ∈ items, v.WellFormed := by
  induction items with
  | nil => simp [AllWellFormed]
  | cons v rest ih => simp [AllWellFormed, ih]

/-- Inserting a well-formed value keeps members well-formed. -/
theorem fieldsWellFormed_insert {fields : List (String × Json)} {k : String} {v : Json}
    (hv : v.WellFormed) (h : FieldsWellFormed fields) :
    FieldsWellFormed (Entries.insert k v fields) := by
  rw [fieldsWellFormed_iff] at h ⊢
  intro e he
  rcases Entries.mem_insert he with rfl | he
  · exact hv
  · exact h e he

/-- Bringing members into key order keeps them well-formed. -/
theorem fieldsWellFormed_ofList {fields : List (String × Json)} (h : FieldsWellFormed fields) :
    FieldsWellFormed (Entries.ofList fields) := by
  have step : ∀ (l acc : List (String × Json)), FieldsWellFormed l → FieldsWellFormed acc →
      FieldsWellFormed (l.foldl (fun acc e => Entries.insert e.1 e.2 acc) acc) := by
    intro l
    induction l with
    | nil => intro acc _ h; exact h
    | cons e rest ih =>
      intro acc hl hacc
      exact ih _ hl.2 (fieldsWellFormed_insert hl.1 hacc)
  exact step fields [] h trivial

mutual

/-- The canonical form of a value is well-formed, at any depth. -/
theorem canonical_wellFormed : ∀ v : Json, v.canonical.WellFormed
  | null => trivial
  | bool _ => trivial
  | int _ => trivial
  | float _ => trivial
  | str _ => trivial
  | arr items => by
    rw [canonical, WellFormed]
    exact canonicalItems_wellFormed items
  | obj fields => by
    rw [canonical, WellFormed]
    exact ⟨Entries.ofList_sorted _, fieldsWellFormed_ofList (canonicalFields_wellFormed fields)⟩

theorem canonicalItems_wellFormed : ∀ items : List Json, AllWellFormed (canonicalItems items)
  | [] => trivial
  | item :: rest => ⟨canonical_wellFormed item, canonicalItems_wellFormed rest⟩

theorem canonicalFields_wellFormed : ∀ fields : List (String × Json),
    FieldsWellFormed (canonicalFields fields)
  | [] => trivial
  | (_, v) :: rest => ⟨canonical_wellFormed v, canonicalFields_wellFormed rest⟩

end

mutual

/-- A well-formed value is its own canonical form. -/
theorem canonical_eq_self : ∀ {v : Json}, v.WellFormed → v.canonical = v
  | null, _ => rfl
  | bool _, _ => rfl
  | int _, _ => rfl
  | float _, _ => rfl
  | str _, _ => rfl
  | arr items, h => by
    rw [WellFormed] at h
    rw [canonical, canonicalItems_eq_self h]
  | obj fields, h => by
    rw [WellFormed] at h
    rw [canonical, canonicalFields_eq_self h.2, Entries.ofList_eq_self h.1]

theorem canonicalItems_eq_self : ∀ {items : List Json}, AllWellFormed items →
    canonicalItems items = items
  | [], _ => rfl
  | item :: rest, h => by
    rw [canonicalItems, canonical_eq_self h.1, canonicalItems_eq_self h.2]

theorem canonicalFields_eq_self : ∀ {fields : List (String × Json)}, FieldsWellFormed fields →
    canonicalFields fields = fields
  | [], _ => rfl
  | (k, v) :: rest, h => by
    rw [canonicalFields, canonical_eq_self h.1, canonicalFields_eq_self h.2]

end

/-- The members of an object. -/
def fields? : Json → Option (List (String × Json))
  | obj fields => some fields
  | _ => none

/-- The items of a list. -/
def items? : Json → Option (List Json)
  | arr items => some items
  | _ => none

/-- The text of a string. -/
def text? : Json → Option String
  | str s => some s
  | _ => none

/-- A truth value. -/
def bool? : Json → Option Bool
  | bool b => some b
  | _ => none

/-- An integer from `lo` to `hi`. -/
def intIn? (lo hi : Int) : Json → Option Int
  | int n => if lo ≤ n ∧ n ≤ hi then some n else none
  | _ => none

/-- An integer of 32 signed bits. -/
def int32? : Json → Option Int := intIn? (-0x80000000) 0x7fffffff

/-- An integer of 64 signed bits. -/
def int64? : Json → Option Int := intIn? (-0x8000000000000000) 0x7fffffffffffffff

/-- An integer of 64 unsigned bits. -/
def nat64? : Json → Option Int := intIn? 0 0xffffffffffffffff

/-- The member of an object under a name. -/
def member? (k : String) : Json → Option Json
  | obj fields => Entries.get? k fields
  | _ => none

/-- An object of the given members, in canonical order. -/
def ofFields (fields : List (String × Json)) : Json := obj (Entries.ofList fields)

end Json

end BuildFleet
