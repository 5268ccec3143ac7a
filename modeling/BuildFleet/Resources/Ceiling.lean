import BuildFleet.Resources.Basic

/-!
# Settling resources

Three parties have a say in what a container gets: the template provides defaults, the
instance may ask for something else, and ceilings cap the result. None of the functions here
can fail.

* `override` lays what the instance asks for over the defaults; a limit above the default
  one is ignored, and a request is lowered to the limit that stands.
* `applyMaximums` layers requirements, the last value of each resource counting, and lowers
  what is above a ceiling; a resource with a ceiling and no limit gets the ceiling as its
  limit.
* `tighten` combines two ceilings, the second of which can only lower the first.
-/

namespace BuildFleet

namespace Requirements

/-- The quantity, or the bound if it exceeds it. -/
def lowered (q bound : Quantity) : Quantity := if q.exceeds bound then bound else q

/-- Takes over the limits asked for, except those above the default limit. -/
def overrideLimits (asked defaults : ResourceList) : ResourceList :=
  asked.entries.foldl (fun acc e =>
    match defaults.get? e.1 with
    | some limit => if e.2.exceeds limit then acc else acc.insert e.1 e.2
    | none => acc.insert e.1 e.2) defaults

/-- Takes over the requests asked for, lowered to the limits. -/
def overrideRequests (asked limits defaults : ResourceList) : ResourceList :=
  asked.entries.foldl (fun acc e =>
    acc.insert e.1 (match limits.get? e.1 with
      | some limit => lowered e.2 limit
      | none => e.2)) defaults

/-- The requirements asked for, laid over the defaults. -/
def override (asked : Option Requirements) (defaults : Requirements) : Requirements :=
  match asked with
  | none => defaults
  | some asked =>
    let limits := overrideLimits asked.limits defaults.limits
    ⟨limits, overrideRequests asked.requests limits defaults.requests⟩

/-- All layers in one, later ones replacing the values of earlier ones. -/
def layered (layers : List Requirements) : Requirements :=
  layers.foldl (fun acc layer =>
    ⟨acc.limits.extend layer.limits, acc.requests.extend layer.requests⟩) empty

/-- The limits under a ceiling, and whether any had to be lowered or filled in. -/
def capLimits (maximum limits : ResourceList) : ResourceList × Bool :=
  maximum.entries.foldl (fun (acc, changed) e =>
    match acc.get? e.1 with
    | none => (acc.insert e.1 e.2, true)
    | some limit => if limit.exceeds e.2 then (acc.insert e.1 e.2, true) else (acc, changed))
    (limits, false)

/-- The requests lowered to their limits, and whether any had to be. -/
def capRequests (limits requests : ResourceList) : ResourceList × Bool :=
  requests.entries.foldl (fun (acc, changed) e =>
    match limits.get? e.1 with
    | some limit => if e.2.exceeds limit then (acc.insert e.1 limit, true) else (acc, changed)
    | none => (acc, changed))
    (requests, false)

/-- Layers requirements and caps the result, and tells whether capping changed anything. -/
def applyMaximums (maximum : ResourceList) (layers : List Requirements) : Requirements × Bool :=
  let r := layered layers
  let (limits, limitsChanged) := capLimits maximum r.limits
  let (requests, requestsChanged) := capRequests limits r.requests
  (⟨limits, requests⟩, limitsChanged || requestsChanged)

/-- The layered requirements under the ceiling. -/
def withMaximums (maximum : ResourceList) (layers : List Requirements) : Requirements :=
  (applyMaximums maximum layers).1

/-- Whether the ceiling changes the layered requirements. -/
def exceedsMaximums (maximum : ResourceList) (layers : List Requirements) : Bool :=
  (applyMaximums maximum layers).2

end Requirements

/-- The first ceiling, lowered by the second: entries of the second above those of the first
are ignored, and entries for other resources are added. -/
def ResourceList.tighten (ceiling lower : ResourceList) : ResourceList :=
  Requirements.overrideLimits lower ceiling

end BuildFleet
