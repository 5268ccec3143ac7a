import BuildFleet.Json.Basic
import BuildFleet.Dict

/-!
# Laying one value over another

A manifest is put together from layers. Laying a layer over a base only adds and overwrites:
what the layer leaves out stays as it was. How two values merge depends on what they are:

* a text is replaced by one that is not empty;
* an optional value is taken over where the base has none, and merged where both have one;
* a plain scalar is replaced;
* maps are merged key by key;
* keyed lists are merged element by element: an element goes into the first one with its
  key, and to the end if there is none (`keyed`);
* any other list is replaced by one that is not empty (`atomic`).

Two values of different shapes cannot be merged. A merge that fails says where, and what had
been merged up to there (`Merged`); the fields of a record are merged in order, and after a
failure the others keep the base's value (`Layering`).
-/

namespace BuildFleet

/-- A step from a value into one of its parts. -/
inductive Segment where
  /-- A field of a record or a member of an object or map. -/
  | field (name : String)
  /-- The element of a list with the given key. -/
  | element (key : String)
  deriving DecidableEq, Repr

/-- The text of a step. -/
def Segment.text : Segment → String
  | field name => name
  | element key => "[" ++ key ++ "]"

/-- A path from a value into it, outermost step first. -/
abbrev MergePath := List Segment

/-- Puts a step before the text of a path: with a point between them, unless the path is
empty or starts with a bracket. -/
def Segment.before (s : Segment) (path : String) : String :=
  if path.isEmpty then s.text
  else if path.startsWith "[" then s.text ++ path
  else s.text ++ "." ++ path

/-- The text of a path. -/
def MergePath.text (p : MergePath) : String := p.foldr Segment.before ""

/-- Two values of different shapes at the same place. -/
structure Mismatch where
  /-- The place. -/
  path : MergePath
  /-- The shape found in the base. -/
  expected : JsonKind
  /-- The shape found in the layer. -/
  found : JsonKind
  deriving DecidableEq, Repr

namespace Mismatch

/-- The same mismatch seen from one step further out. -/
def within (s : Segment) (m : Mismatch) : Mismatch := { m with path := s :: m.path }

/-- What a mismatch is reported as. -/
def message (m : Mismatch) : String :=
  "structural mismatch at '" ++ m.path.text ++ "': cannot merge " ++ m.found.name ++ " onto "
    ++ m.expected.name

end Mismatch

/-- The outcome of a merge: what has been merged, which is everything unless there is a mismatch. -/
structure Merged (α : Type) where
  /-- The base with the layer laid over it, up to the mismatch if there is one. -/
  value : α
  /-- What stopped the merge. -/
  mismatch : Option Mismatch

namespace Merged

variable {α β : Type}

/-- A merge that succeeds. -/
def done (v : α) : Merged α := ⟨v, none⟩

/-- A merge that fails at once and leaves the base. -/
def failed (base : α) (expected found : JsonKind) : Merged α := ⟨base, some ⟨[], expected, found⟩⟩

/-- The outcome for a value of which the merged one is a part. -/
def map (f : α → β) (m : Merged α) : Merged β := ⟨f m.value, m.mismatch⟩

/-- The outcome seen from one step further out. -/
def within (s : Segment) (m : Merged α) : Merged α := ⟨m.value, m.mismatch.map (·.within s)⟩

/-- Goes on with the merged value unless the merge failed. -/
def andThen (m : Merged α) (next : α → Merged α) : Merged α :=
  match m.mismatch with
  | none => next m.value
  | some _ => m

/-- The merged value, or why there is none. -/
def result (m : Merged α) : Except Mismatch α :=
  match m.mismatch with
  | none => .ok m.value
  | some e => .error e

end Merged

/-- Values that can be laid over one another. -/
class Mergeable (α : Type) where
  /-- Lays the second value over the first. -/
  merge : α → α → Merged α

export Mergeable (merge)

/-- Lays all layers over the base, from left to right. -/
def mergeAll {α : Type} [Mergeable α] (base : α) (layers : List α) : Except Mismatch α :=
  layers.foldlM (fun acc layer => (merge acc layer).result) base

/-- A text is replaced by one that is not empty. -/
instance : Mergeable String where
  merge base layer := .done (if layer.isEmpty then base else layer)

/-- A truth value is replaced. -/
instance : Mergeable Bool where
  merge _ layer := .done layer

/-- An integer is replaced. -/
instance : Mergeable Int where
  merge _ layer := .done layer

/-- An absent value is taken over, and one that is present on both sides is merged. -/
instance {α : Type} [Mergeable α] : Mergeable (Option α) where
  merge
    | some base, some layer => (merge base layer).map some
    | none, some layer => .done (some layer)
    | base, none => .done base

/-- Lays entries over a map one by one. -/
def mergeEntries {α : Type} [Mergeable α] (base : Dict α) : List (String × α) → Merged (Dict α)
  | [] => .done base
  | (k, v) :: rest =>
    match base.get? k with
    | none => mergeEntries (base.insert k v) rest
    | some old =>
      match (merge old v).within (.field k) with
      | ⟨new, none⟩ => mergeEntries (base.insert k new) rest
      | ⟨new, some e⟩ => ⟨base.insert k new, some e⟩

/-- Maps are merged key by key. -/
instance {α : Type} [Mergeable α] : Mergeable (Dict α) where
  merge base layer := mergeEntries base layer.entries

/-- Merges an element into the first one with its key, or puts it at the end. -/
def mergeElement {α : Type} [Mergeable α] (key : α → String) (item : α) : List α → Merged (List α)
  | [] => .done [item]
  | x :: rest =>
    if key x = key item then ((merge x item).within (.element (key item))).map (· :: rest)
    else (mergeElement key item rest).map (x :: ·)

/-- Merges a list into a keyed list, element by element. -/
def keyed {α : Type} [Mergeable α] (key : α → String) (base : List α) : List α → Merged (List α)
  | [] => .done base
  | item :: rest => (mergeElement key item base).andThen fun base => keyed key base rest

/-- Replaces a list by one that is not empty. -/
def atomic {α : Type} (base layer : List α) : List α := if layer.isEmpty then base else layer

/-- A merge of a record in progress: each field is merged as long as no earlier one has failed. -/
abbrev Layering (α : Type) := StateM (Option Mismatch) α

namespace Layering

variable {α : Type}

/-- The next part of the record, given its base and how it merges. -/
def part (base : α) (merged : Unit → Merged α) : Layering α := fun failure =>
  match failure with
  | some e => (base, some e)
  | none => ((merged ()).value, (merged ()).mismatch)

/-- A named field. -/
def field [Mergeable α] (name : String) (base layer : α) : Layering α :=
  part base fun _ => (merge base layer).within (.field name)

/-- A named keyed list. -/
def keyedField [Mergeable α] (name : String) (key : α → String) (base layer : List α) :
    Layering (List α) :=
  part base fun _ => (keyed key base layer).within (.field name)

/-- A named list that is replaced as a whole. -/
def atomicField (base layer : List α) : Layering (List α) :=
  part base fun _ => .done (atomic base layer)

/-- Members of the record without a field of their own. -/
def rest [Mergeable α] (base layer : α) : Layering α :=
  part base fun _ => merge base layer

/-- The outcome of merging all fields. -/
def run (m : Layering α) : Merged α :=
  let (v, e) := m none
  ⟨v, e⟩

end Layering

end BuildFleet
