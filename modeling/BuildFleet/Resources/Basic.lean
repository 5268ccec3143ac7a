import BuildFleet.Json.Record
import BuildFleet.Merge.Basic
import BuildFleet.Quantity.Basic

/-!
# Resource requirements

What a container asks for: limits, which cap its use of a resource, and requests, which
reserve some of it. Both are maps from resource names such as `cpu` and `memory` to
quantities.
-/

namespace BuildFleet

/-- A quantity is replaced. -/
instance : Mergeable Quantity where
  merge _ layer := .done layer

/-- Quantities by resource name. -/
abbrev ResourceList := Dict Quantity

/-- The resources that a container may use and that are reserved for it. -/
structure Requirements where
  /-- The most that may be used. -/
  limits : ResourceList
  /-- What is reserved. -/
  requests : ResourceList
  deriving DecidableEq, Inhabited

namespace Requirements

/-- No limits and no requests. -/
def empty : Requirements := ⟨.empty, .empty⟩

/-- Whether there are neither limits nor requests. -/
def isEmpty (r : Requirements) : Bool := r.limits.isEmpty && r.requests.isEmpty

/-- Sets one limit. -/
def limit (r : Requirements) (resource : String) (q : Quantity) : Requirements :=
  { r with limits := r.limits.insert resource q }

/-- Sets one request. -/
def request (r : Requirements) (resource : String) (q : Quantity) : Requirements :=
  { r with requests := r.requests.insert resource q }

/-- Limits and requests are merged in this order. -/
instance : Mergeable Requirements where
  merge base layer := Layering.run do
    return {
      limits := ← Layering.field "limits" base.limits layer.limits
      requests := ← Layering.field "requests" base.requests layer.requests }

/-- Reads requirements; either part may be left out. -/
def ofJson? (j : Json) : Option Requirements := do
  let m ← Members.ofClosed? ["limits", "requests"] 0 j
  return {
    limits := ← m.getD? "limits" (Json.dictOf? Quantity.ofJson?) .empty
    requests := ← m.getD? "requests" (Json.dictOf? Quantity.ofJson?) .empty }

/-- Writes requirements without the parts that are empty. -/
def toJson (r : Requirements) : Json :=
  Json.ofFields (Members.dict "limits" Quantity.toJson r.limits
    ++ Members.dict "requests" Quantity.toJson r.requests)

end Requirements

end BuildFleet
