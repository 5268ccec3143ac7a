import BuildFleet.Entries

/-!
# Maps keyed by text

`Dict α` is a list of entries in strictly increasing key order, the order being part of the
type. Two maps with the same contents are therefore equal (`Dict.ext_get?`), and a listing
of the contents is always in key order.
-/

namespace BuildFleet

/-- A finite map from texts. -/
structure Dict (α : Type) where
  /-- The contents in key order. -/
  entries : List (String × α)
  /-- Keys strictly increase. -/
  sorted : Entries.Sorted entries
  deriving DecidableEq

namespace Dict

variable {α β : Type}

/-- The map without entries. -/
def empty : Dict α := ⟨[], Entries.sorted_nil⟩

instance : Inhabited (Dict α) := ⟨empty⟩

instance : EmptyCollection (Dict α) := ⟨empty⟩

/-- Whether there is no entry. -/
def isEmpty (d : Dict α) : Bool := d.entries.isEmpty

/-- The value under a key. -/
def get? (d : Dict α) (k : String) : Option α := Entries.get? k d.entries

/-- Whether there is a value under the key. -/
def contains (d : Dict α) (k : String) : Bool := (d.get? k).isSome

/-- Puts a value under a key, replacing the one that was there. -/
def insert (d : Dict α) (k : String) (v : α) : Dict α :=
  ⟨Entries.insert k v d.entries, Entries.insert_sorted k v d.sorted⟩

/-- All entries, a later one replacing an earlier one under the same key. -/
def ofList (l : List (String × α)) : Dict α := ⟨Entries.ofList l, Entries.ofList_sorted l⟩

/-- Adds all entries of the second map, which win over those of the first. -/
def extend (d d' : Dict α) : Dict α :=
  d'.entries.foldl (fun acc e => acc.insert e.1 e.2) d

/-- The entries under keys that pass the test. -/
def filterKeys (p : String → Bool) (d : Dict α) : Dict α :=
  ⟨Entries.filterKeys p d.entries, Entries.filterKeys_sorted p d.sorted⟩

/-- The same keys with other values. -/
def map (f : α → β) (d : Dict α) : Dict β :=
  ⟨Entries.mapValues f d.entries, Entries.mapValues_sorted f d.sorted⟩

/-- Maps with the same contents are equal. -/
theorem ext_get? {d d' : Dict α} (h : ∀ k, d.get? k = d'.get? k) : d = d' := by
  cases d with
  | mk l hl =>
    cases d' with
    | mk l' hl' =>
      have : l = l' := Entries.ext_get? hl hl' h
      subst this
      rfl

/-- The empty map has nothing under any key. -/
@[simp] theorem get?_empty (k : String) : (empty : Dict α).get? k = none := rfl

/-- What is put under a key is found there. -/
@[simp] theorem get?_insert_self (d : Dict α) (k : String) (v : α) :
    (d.insert k v).get? k = some v :=
  Entries.get?_insert_self k v d.entries

/-- Putting something under one key changes nothing under another. -/
theorem get?_insert_ne (d : Dict α) {k k' : String} (v : α) (h : k ≠ k') :
    (d.insert k v).get? k' = d.get? k' :=
  Entries.get?_insert_ne v h d.entries

end Dict

end BuildFleet
