import BuildFleet.Template.Basic
import BuildFleet.Text.Replace

/-!
# ConfigMaps that a template publishes

A template yields up to two ConfigMaps, one with the configuration of the daemon and one
with a script that is run before the daemon is stopped. Their names depend on the template's
name alone, so one that is not wanted any more can be deleted without looking at what it
held.
-/

namespace BuildFleet

/-- The name under which the operator writes to the API. -/
def operatorName : String := "buildkit-operator"

/-- What a template can publish. -/
inductive ArtifactKind where
  /-- The configuration of the daemon. -/
  | daemonConfig
  /-- Scripts for the hooks of the daemon's container. -/
  | scripts
  deriving DecidableEq, Inhabited, Repr

namespace ArtifactKind

/-- All kinds, in the order in which they are published. -/
def all : List ArtifactKind := [daemonConfig, scripts]

/-- The end of the name of an artifact. -/
def suffix : ArtifactKind → String
  | daemonConfig => "toml"
  | scripts => "scripts"

/-- The only file in an artifact. -/
def fileName : ArtifactKind → String
  | daemonConfig => "buildkitd.toml"
  | scripts => "buildkit-prestop.sh"

/-- The name of an artifact of the named template. -/
def artifactName (kind : ArtifactKind) (template : String) : String :=
  "buildkit-" ++ template ++ "-" ++ kind.suffix

end ArtifactKind

/-- The lines of the script that comes with the operator. Run before a daemon is stopped, it waits
until no client is connected to the port that it sets at its beginning. -/
def preStopLines : List String := [
  "#!/bin/sh",
  "# Pre-stop hook for buildkitd: hold the pod open until clients disconnect so",
  "# in-flight builds can finish inside the termination grace period.",
  "",
  "BUILDKITD_PORT=1234",
  "POLL_INTERVAL=5",
  "",
  "active_connections() \x7b",
  "  netstat -tn 2>/dev/null | awk -v port=\":$\x7bBUILDKITD_PORT\x7d\" '",
  "    $6 == \"ESTABLISHED\" && substr($4, length($4) - length(port) + 1) == port \x7b n++ \x7d",
  "    END \x7b print n + 0 \x7d",
  "  '",
  "\x7d",
  "",
  "echo \"buildkit-prestop: waiting for builds on port $\x7bBUILDKITD_PORT\x7d to finish\"",
  "",
  "while [ \"$(active_connections)\" -gt 0 ]; do",
  "  echo \"buildkit-prestop: $(active_connections) active connection(s), sleeping " ++
    "$\x7bPOLL_INTERVAL\x7ds\"",
  "  sleep \"$\x7bPOLL_INTERVAL\x7d\"",
  "done",
  "",
  "echo \"buildkit-prestop: no active builds, stopping\"",
  "exit 0"]

/-- The script that comes with the operator. -/
def preStopSource : String := String.join (preStopLines.map fun line => line ++ "\n")

/-- What the script says where the port of the daemon belongs. -/
def portPlaceholder : String := "BUILDKITD_PORT=1234"

/-- The script that is run before the daemon on the given port is stopped. -/
def preStopScript (port : Int) : String :=
  Text.replaceFirst portPlaceholder ("BUILDKITD_PORT=" ++ toString port) preStopSource

/-- A ConfigMap of the API, as far as artifacts need it. -/
structure ConfigMap where
  /-- Its name. -/
  name : String
  /-- Its namespace. -/
  ns : String
  /-- Its labels. -/
  labels : Dict String
  /-- Its owner. -/
  owner : Option OwnerReference
  /-- What it holds. -/
  data : Dict String
  deriving DecidableEq, Inhabited

/-- Writes a ConfigMap. -/
def ConfigMap.toJson (c : ConfigMap) : Json :=
  Json.ofFields [
    ("apiVersion", .str "v1"), ("kind", .str "ConfigMap"),
    ("metadata", Json.ofFields (Members.always "name" (.str c.name)
      ++ Members.always "namespace" (.str c.ns)
      ++ Members.always "labels" (Json.ofDict Json.str c.labels)
      ++ Members.option "ownerReferences" (fun o => .arr [o.toJson]) c.owner)),
    ("data", Json.ofDict Json.str c.data)]

/-- What a template publishes, before it is sent. -/
structure Artifact where
  /-- What it is. -/
  kind : ArtifactKind
  /-- The name of the ConfigMap. -/
  name : String
  /-- The namespace of the ConfigMap. -/
  ns : String
  /-- The files in it. -/
  data : Dict String
  deriving DecidableEq, Inhabited

namespace Artifact

/-- The artifact of a kind with the given file in it. -/
def make (t : Template) (kind : ArtifactKind) (contents : String) : Artifact where
  kind := kind
  name := kind.artifactName t.name
  ns := t.ns.getD ""
  data := Dict.ofList [(kind.fileName, contents)]

/-- The artifact of a kind, if the template yields it: daemon configuration if it has any,
and scripts if it asks for them. -/
def derive? (t : Template) : ArtifactKind → Option Artifact
  | .daemonConfig =>
    if t.spec.buildkitdToml.isEmpty then none
    else some (make t .daemonConfig t.spec.buildkitdToml)
  | .scripts =>
    if t.spec.lifecycle.preStopScript then some (make t .scripts (preStopScript t.spec.port))
    else none

/-- The ConfigMap with the artifact, labelled with who manages it and what it is. -/
def toConfigMap (a : Artifact) (owner : Option OwnerReference) : ConfigMap where
  name := a.name
  ns := a.ns
  labels := Dict.ofList [("app.kubernetes.io/managed-by", operatorName),
    ("app.kubernetes.io/component", a.kind.suffix)]
  owner := owner
  data := a.data

end Artifact

end BuildFleet
