import BuildFleet.Json.FreeForm
import BuildFleet.Kubernetes.PodFormat

/-!
# Metadata of API objects

The metadata that every object of the API carries. The fields that decisions depend on have
a place of their own; the others are kept as JSON that conforms to the API.
-/

namespace BuildFleet

/-- An owner of an object. -/
structure OwnerReference where
  /-- The API version of the owner. -/
  apiVersion : String
  /-- The kind of the owner. -/
  kind : String
  /-- The name of the owner. -/
  name : String
  /-- The identifier of the owner. -/
  uid : String
  /-- Whether the owner manages the object. -/
  controller : Option Bool := none
  /-- Whether the owner cannot be deleted before the object. -/
  blockOwnerDeletion : Option Bool := none
  deriving DecidableEq, Inhabited, Repr

namespace OwnerReference

/-- Reads an owner. -/
def ofJson? (j : Json) : Option OwnerReference := do
  let m ← (PodFormat.ownerReference.conform? j).bind Members.ofOpen?
  return {
    apiVersion := ← m.required? "apiVersion" Json.text?
    kind := ← m.required? "kind" Json.text?
    name := ← m.required? "name" Json.text?
    uid := ← m.required? "uid" Json.text?
    controller := ← m.optional? "controller" Json.bool?
    blockOwnerDeletion := ← m.optional? "blockOwnerDeletion" Json.bool? }

/-- Writes an owner. -/
def toJson (r : OwnerReference) : Json :=
  Json.ofFields (Members.always "apiVersion" (.str r.apiVersion)
    ++ Members.always "kind" (.str r.kind)
    ++ Members.always "name" (.str r.name)
    ++ Members.always "uid" (.str r.uid)
    ++ Members.option "controller" Json.bool r.controller
    ++ Members.option "blockOwnerDeletion" Json.bool r.blockOwnerDeletion)

end OwnerReference

/-- The metadata of an object. -/
structure ObjectMeta where
  /-- Its name. -/
  name : Option String := none
  /-- The start of the name that the API server gives it. -/
  generateName : Option String := none
  /-- Its namespace. -/
  ns : Option String := none
  /-- Its identifier. -/
  uid : Option String := none
  /-- How often its specification has changed. -/
  generation : Option Int := none
  /-- Its owners. -/
  ownerReferences : Option (List OwnerReference) := none
  /-- The other fields. -/
  others : FreeForm := .empty
  deriving Inhabited

namespace ObjectMeta

/-- The members with a field of their own. -/
def names : List String :=
  ["name", "generateName", "namespace", "uid", "generation", "ownerReferences"]

/-- Reads metadata. -/
def ofJson? (j : Json) : Option ObjectMeta := do
  let m ← (PodFormat.objectMeta.conform? j).bind Members.ofOpen?
  return {
    name := ← m.optional? "name" Json.text?
    generateName := ← m.optional? "generateName" Json.text?
    ns := ← m.optional? "namespace" Json.text?
    uid := ← m.optional? "uid" Json.text?
    generation := ← m.optional? "generation" Json.int64?
    ownerReferences := ← m.optional? "ownerReferences" (Json.listOf? OwnerReference.ofJson?)
    others := FreeForm.ofMembers (m.without names) }

/-- Writes metadata. -/
def toJson (m : ObjectMeta) : Json :=
  Json.ofFields (Members.option "name" Json.str m.name
    ++ Members.option "generateName" Json.str m.generateName
    ++ Members.option "namespace" Json.str m.ns
    ++ Members.option "uid" Json.str m.uid
    ++ Members.option "generation" Json.int m.generation
    ++ Members.option "ownerReferences" (fun l => .arr (l.map OwnerReference.toJson))
        m.ownerReferences
    ++ m.others.fields)

/-- What the object is called: its name, or else the start of the name it will get. A name
that is present counts even if it is empty. -/
def displayName (m : ObjectMeta) : String := (m.name.or m.generateName).getD ""

end ObjectMeta

end BuildFleet
