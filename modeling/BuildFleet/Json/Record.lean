import BuildFleet.Dict
import BuildFleet.Json.Basic

/-!
# Records in JSON

How a structure with named fields is read from a JSON value and written to one. A closed
record knows all its fields: it is an object whose other members are ignored, or the list of
the values of its first fields in their order. An open record keeps members that it does not
know, so it can only be an object.

A field is read in one of three ways: a required one has to be there; a defaulted one may be
left out; an optional one may be left out or null, both of which mean that it is absent.
-/

namespace BuildFleet

/-- The members of a record. -/
abbrev Members := List (String × Json)

namespace Members

variable {α : Type}

/-- The members of an open record. -/
def ofOpen? (j : Json) : Option Members := j.fields?

/-- The members of a closed record with the named fields, of which a list has to give at
least the first `least` ones. -/
def ofClosed? (names : List String) (least : Nat) : Json → Option Members
  | .obj fields => some fields
  | .arr items =>
    if least ≤ items.length ∧ items.length ≤ names.length then some (names.zip items) else none
  | _ => none

/-- A field that has to be there. -/
def required? (m : Members) (name : String) (read : Json → Option α) : Option α :=
  (Entries.get? name m).bind read

/-- A field that stands for a default when it is left out. -/
def getD? (m : Members) (name : String) (read : Json → Option α) (default : α) : Option α :=
  match Entries.get? name m with
  | none => some default
  | some j => read j

/-- A field that may be left out or null. -/
def optional? (m : Members) (name : String) (read : Json → Option α) : Option (Option α) :=
  match Entries.get? name m with
  | none => some none
  | some .null => some none
  | some j => (read j).map some

/-- The members under other names. -/
def without (m : Members) (names : List String) : Members :=
  Entries.filterKeys (fun k => !names.contains k) m

/-- A member that is always written. -/
def always (name : String) (v : Json) : Members := [(name, v)]

/-- A text that is written unless it is empty. -/
def text (name : String) (s : String) : Members := if s.isEmpty then [] else [(name, .str s)]

/-- A list that is written unless it is empty. -/
def list (name : String) (write : α → Json) (xs : List α) : Members :=
  if xs.isEmpty then [] else [(name, .arr (xs.map write))]

/-- A map that is written unless it is empty. -/
def dict (name : String) (write : α → Json) (d : Dict α) : Members :=
  if d.isEmpty then [] else [(name, .obj (d.map write).entries)]

/-- A value that is written if there is one. -/
def option (name : String) (write : α → Json) : Option α → Members
  | none => []
  | some v => [(name, write v)]

end Members

namespace Json

variable {α : Type}

/-- A list each item of which can be read. -/
def listOf? (read : Json → Option α) (j : Json) : Option (List α) :=
  j.items?.bind fun items => items.mapM read

/-- An object each member of which can be read. -/
def dictOf? (read : Json → Option α) (j : Json) : Option (Dict α) :=
  j.fields?.bind fun fields =>
    (fields.mapM fun e => (read e.2).map fun v => (e.1, v)).map Dict.ofList

/-- A map written as an object. -/
def ofDict (write : α → Json) (d : Dict α) : Json := .obj (d.map write).entries

/-- The name of a case of an enumeration: a string, or an object with the name as its only
member and null under it. -/
def caseName? : Json → Option String
  | .str s => some s
  | .obj [(s, .null)] => some s
  | _ => none

end Json

end BuildFleet
