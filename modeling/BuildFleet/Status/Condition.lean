import BuildFleet.Json.Record
import BuildFleet.Time.Rfc3339

/-!
# Conditions and references in a status

A status tells how an object is doing through conditions, of which it has one per type, and
through references to the objects that are managed for it. Setting a condition replaces the
one of its type and puts it at the end; its transition time changes only when its status
does.
-/

namespace BuildFleet

/-- Whether a condition holds. -/
inductive ConditionStatus where
  | yes | no | unknown
  deriving DecidableEq, Inhabited, Repr

namespace ConditionStatus

/-- The name of a condition status. -/
def text : ConditionStatus → String
  | yes => "True"
  | no => "False"
  | unknown => "Unknown"

/-- Reads a condition status. -/
def ofJson? (j : Json) : Option ConditionStatus :=
  match j.caseName? with
  | some "True" => some yes
  | some "False" => some no
  | some "Unknown" => some unknown
  | _ => none

/-- The status of something that holds or does not. -/
def ofBool (b : Bool) : ConditionStatus := if b then yes else no

end ConditionStatus

/-- Something that an object's status states. -/
structure Condition where
  /-- What is stated. -/
  type : String
  /-- Whether it holds. -/
  status : ConditionStatus
  /-- Why, for programs. -/
  reason : String
  /-- Why, for people. -/
  message : String
  /-- Since when it has held or not. -/
  lastTransitionTime : Instant
  deriving DecidableEq, Inhabited, Repr

namespace Condition

/-- The type of the condition that the managed pod is deployed. -/
def deployed : String := "Deployed"

/-- The type of the condition that the object is ready. -/
def ready : String := "Ready"

/-- Whether the condition holds. -/
def isTrue (c : Condition) : Bool := c.status == .yes

/-- The condition as it follows earlier ones: with the transition time of the first one of
its type, if the status is the same. -/
def following (c : Condition) (earlier : List Condition) : Condition :=
  match earlier.find? fun e => e.type == c.type with
  | some e =>
    if e.status = c.status then { c with lastTransitionTime := e.lastTransitionTime } else c
  | none => c

/-- Replaces the conditions of the same type. -/
def set (earlier : List Condition) (c : Condition) : List Condition :=
  (earlier.filter fun e => e.type != c.type) ++ [c.following earlier]

/-- Reads a condition; the message may be left out. -/
def ofJson? (j : Json) : Option Condition := do
  let m ← Members.ofClosed? ["type", "status", "reason", "message", "lastTransitionTime"] 5 j
  return {
    type := ← m.required? "type" Json.text?
    status := ← m.required? "status" ConditionStatus.ofJson?
    reason := ← m.required? "reason" Json.text?
    message := ← m.getD? "message" Json.text? ""
    lastTransitionTime := ← m.required? "lastTransitionTime" Instant.ofJson? }

/-- Writes a condition. -/
def toJson (c : Condition) : Json :=
  Json.ofFields [("type", .str c.type), ("status", .str c.status.text), ("reason", .str c.reason),
    ("message", .str c.message), ("lastTransitionTime", c.lastTransitionTime.toJson)]

end Condition

/-- The kinds of objects that are managed. -/
inductive ManagedKind where
  | pod | configMap
  deriving DecidableEq, Inhabited, Repr

namespace ManagedKind

/-- The name of a kind. -/
def text : ManagedKind → String
  | pod => "Pod"
  | configMap => "ConfigMap"

/-- Reads a kind. -/
def ofJson? (j : Json) : Option ManagedKind :=
  match j.caseName? with
  | some "Pod" => some pod
  | some "ConfigMap" => some configMap
  | _ => none

end ManagedKind

/-- A reference to a managed object, which may be gone. -/
structure ManagedRef where
  /-- Its kind. -/
  kind : ManagedKind
  /-- Its namespace. -/
  ns : String
  /-- Its name. -/
  name : String
  deriving DecidableEq, Inhabited, Repr

namespace ManagedRef

/-- The reference as a text. -/
def text (r : ManagedRef) : String := r.kind.text ++ "/" ++ r.ns ++ "/" ++ r.name

/-- Reads a reference. -/
def ofJson? (j : Json) : Option ManagedRef := do
  let m ← Members.ofClosed? ["kind", "namespace", "name"] 3 j
  return {
    kind := ← m.required? "kind" ManagedKind.ofJson?
    ns := ← m.required? "namespace" Json.text?
    name := ← m.required? "name" Json.text? }

/-- Writes a reference. -/
def toJson (r : ManagedRef) : Json :=
  Json.ofFields [("kind", .str r.kind.text), ("namespace", .str r.ns), ("name", .str r.name)]

end ManagedRef

end BuildFleet
