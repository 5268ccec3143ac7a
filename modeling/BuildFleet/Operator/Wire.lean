import BuildFleet.Json.Received
import BuildFleet.Network.Target
import BuildFleet.Operator.Program
import BuildFleet.Template.Json

/-!
# Calls as HTTP requests

How each call is sent to the API server (`Call.request?`), where the server finds what a
request is about (`HttpRequest.route?`), what the status of an answer means
(`Call.errorReply`), and what is read from an answer with an object in it
(`Call.receivedReply?`). Deleting what is not found succeeds; every other status of an error
is a failure, and so is a number that is no status.

Names become part of the target as they are. A call whose object has no name, whose names
cannot stand in a target or whose field manager is too long is not sent at all.
-/

namespace BuildFleet

/-- A request to the API server. -/
structure HttpRequest where
  /-- The method. -/
  method : String
  /-- The target. -/
  target : RequestTarget
  /-- The type of the body. -/
  contentType : Option String := none
  /-- The body, as the server reads it. -/
  body : Option Json := none

namespace Call

/-- The path of pods in a namespace. -/
def podsPath (ns : String) : String := "/api/v1/namespaces/" ++ ns ++ "/pods"

/-- The path of ConfigMaps in a namespace. -/
def configMapsPath (ns : String) : String := "/api/v1/namespaces/" ++ ns ++ "/configmaps"

/-- The path of instances in a namespace. -/
def instancesPath (ns : String) : String :=
  "/apis/" ++ apiVersion ++ "/namespaces/" ++ ns ++ "/buildkits"

/-- The path of templates in a namespace. -/
def templatesPath (ns : String) : String :=
  "/apis/" ++ apiVersion ++ "/namespaces/" ++ ns ++ "/buildkittemplates"

/-- The path of one of the objects under a path. -/
def objectPath? (path name : String) : Option String :=
  if name.isEmpty then none else some (path ++ "/" ++ name)

/-- The parameter that names the field manager, which may have 128 bytes. -/
def managerParameter? (manager : String) : Option String :=
  if manager.utf8ByteSize ≤ 128 then some (RequestTarget.parameter "fieldManager" manager)
  else none

/-- A target whose query has room for parameters. -/
def queryTarget? (path : String) (parameters : List String) : Option RequestTarget :=
  RequestTarget.ofText? (path ++ "?" ++ String.join (parameters.map ("&" ++ ·)))

/-- A request that reads an object. -/
def readRequest? (path name : String) : Option HttpRequest := do
  let target ← RequestTarget.ofText? (← objectPath? path name)
  return { method := "GET", target }

/-- A request that deletes an object. -/
def deleteRequest? (path name : String) : Option HttpRequest := do
  let target ← queryTarget? (← objectPath? path name) []
  return {
    method := "DELETE"
    target
    contentType := some "application/json"
    body := some (.obj []) }

/-- A request that replaces a status. -/
def statusRequest? (manager path name : String) (status : Json) : Option HttpRequest := do
  let object ← objectPath? path name
  let target ← queryTarget? (object ++ "/status") [← managerParameter? manager]
  return {
    method := "PATCH"
    target
    contentType := some "application/merge-patch+json"
    body := some (Json.ofFields [("status", status.received)]) }

/-- The request that makes a call under the name of a field manager, if it can be sent. -/
def request? (manager : String) : Call → Option HttpRequest
  | getPod ns name => readRequest? (podsPath ns) name
  | createPod ns pod => do
    let target ← queryTarget? (podsPath ns) [← managerParameter? manager]
    return {
      method := "POST"
      target
      contentType := some "application/json"
      body := some pod.toJson.received }
  | deletePod ns name => deleteRequest? (podsPath ns) name
  | patchStatus ns name status => statusRequest? manager (instancesPath ns) name status.toJson
  | getTemplate ns name => readRequest? (templatesPath ns) name
  | applyConfigMap c => do
    let object ← objectPath? (configMapsPath c.ns) c.name
    let target ← queryTarget? object
      [RequestTarget.parameter "force" "true", ← managerParameter? manager]
    return {
      method := "PATCH"
      target
      contentType := some "application/apply-patch+yaml"
      body := some c.toJson.received }
  | deleteConfigMap ns name => deleteRequest? (configMapsPath ns) name
  | patchTemplateStatus ns name status =>
    statusRequest? manager (templatesPath ns) name status.toJson

/-- Whether the status of an answer says that the request failed. -/
def isErrorStatus (code : Nat) : Bool := 400 ≤ code && code < 600

/-- Whether a number is the status of an answer; a server that gives another one has not
answered. -/
def isStatus (code : Nat) : Bool := 100 ≤ code && code < 1000

/-- What an answer that only consists of a status means for a call. -/
def errorReply (code : Nat) : (c : Call) → Except Failure c.Reply
  | deletePod _ _ => deleted
  | deleteConfigMap _ _ => deleted
  | _ => .error (if isErrorStatus code then .api code else .client)
where
  /-- What it means for a call that deletes: that an object is not found is no error. -/
  deleted : Except Failure Unit :=
    if ¬ isStatus code then .error .client
    else if isErrorStatus code ∧ code ≠ 404 then .error (.api code)
    else .ok ()

/-- A reply with an object in it, as the client reads it from the answer. -/
def receivedReply? : (c : Call) → c.Reply → Option c.Reply
  | getPod _ _, pod => pod.mapM fun p => ApiPod.ofJson? p.toJson.received
  | createPod _ _, pod => ApiPod.ofJson? pod.toJson.received
  | getTemplate _ _, template => template.mapM fun t => Template.ofJson? t.toJson.received
  | _, reply => some reply

end Call

/-- What a request asks for, as the server sees it: the kind of call, and the object in
question. -/
def HttpRequest.route? (r : HttpRequest) : Option (CallKind × ObjectKey) :=
  match r.method, (Text.pieces '/' r.target.path.toList).map String.ofList with
  | method, ["", "api", "v1", "namespaces", ns, "pods", name] =>
    match method with
    | "GET" => some (.getPod, ⟨ns, name⟩)
    | "DELETE" => some (.deletePod, ⟨ns, name⟩)
    | _ => none
  | "POST", ["", "api", "v1", "namespaces", ns, "pods"] => some (.createPod, ⟨ns, ""⟩)
  | method, ["", "api", "v1", "namespaces", ns, "configmaps", name] =>
    match method with
    | "PATCH" => some (.applyConfigMap, ⟨ns, name⟩)
    | "DELETE" => some (.deleteConfigMap, ⟨ns, name⟩)
    | _ => none
  | "GET", ["", "apis", _, _, "namespaces", ns, "buildkittemplates", name] =>
    some (.getTemplate, ⟨ns, name⟩)
  | "PATCH", ["", "apis", _, _, "namespaces", ns, "buildkits", name, "status"] =>
    some (.patchStatus, ⟨ns, name⟩)
  | "PATCH", ["", "apis", _, _, "namespaces", ns, "buildkittemplates", name, "status"] =>
    some (.patchTemplateStatus, ⟨ns, name⟩)
  | _, _ => none

end BuildFleet
