import BuildFleet.Json.Record

/-!
# Free-form objects

Parts of a manifest that are passed through as written are kept as a JSON object in
canonical form. The form is part of the type, so two free-form objects with the same
contents are equal.
-/

namespace BuildFleet

/-- A JSON object in canonical form. -/
structure FreeForm where
  /-- The members in key order. -/
  fields : Members
  /-- Keys strictly increase, here and in all objects inside. -/
  wellFormed : (Json.obj fields).WellFormed

namespace FreeForm

/-- The object without members. -/
def empty : FreeForm := ⟨[], by rw [Json.WellFormed]; exact ⟨Entries.sorted_nil, trivial⟩⟩

instance : Inhabited FreeForm := ⟨empty⟩

/-- The object with the given members, of which the last of each name counts. -/
def ofMembers (m : Members) : FreeForm :=
  ⟨Entries.ofList (Json.canonicalFields m), by
    have h := Json.canonical_wellFormed (.obj m)
    rw [Json.canonical] at h
    exact h⟩

/-- Reads an object. -/
def ofJson? (j : Json) : Option FreeForm := j.fields?.map ofMembers

/-- Writes the object. -/
def toJson (f : FreeForm) : Json := .obj f.fields

/-- Two free-form objects with the same members are the same. -/
theorem ext {f g : FreeForm} (h : f.fields = g.fields) : f = g := by
  cases f
  cases g
  cases h
  rfl

/-- Reading undoes writing. -/
theorem ofJson?_toJson (f : FreeForm) : ofJson? f.toJson = some f := by
  have h := f.wellFormed
  rw [Json.WellFormed] at h
  have : ofMembers f.fields = f :=
    ext (by
      show Entries.ofList (Json.canonicalFields f.fields) = f.fields
      rw [Json.canonicalFields_eq_self h.2, Entries.ofList_eq_self h.1])
  simp [ofJson?, toJson, Json.fields?, this]

end FreeForm

end BuildFleet
