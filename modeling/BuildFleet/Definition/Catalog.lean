import BuildFleet.Definition.Basic
import BuildFleet.Template.Json

/-!
# The definitions of instances and templates

A field that may be left out and that is always written shows its default in the schema.
-/

namespace BuildFleet

namespace Schema

/-- Amounts of a resource. -/
def quantity : Schema :=
  .described "Kubernetes resource quantity, e.g. '500m', '2', or '4Gi'" .intOrText

/-- Amounts by resource. -/
def resourceList : Schema := .dictOf quantity

/-- Limits and requests. -/
def requirements : Schema :=
  .record
    [("limits", .described "Maximum amount of each resource the container may use" resourceList),
      ("requests", .described "Amount of each resource reserved for the container" resourceList)]
    []

/-- Labels and the like. -/
def texts : Schema := .dictOf .text

/-- Conditions. -/
def condition : Schema :=
  .described "Condition for status reporting" <| .record
    [("lastTransitionTime", .described "Last time the condition transitioned" .instant),
      ("message", .default (.str "") (.described "Human-readable message" .text)),
      ("reason", .described "Machine-readable reason for the condition" .text),
      ("status", .described "Status of the condition (True, False, Unknown)"
        (.oneOf ([ConditionStatus.yes, .no, .unknown].map ConditionStatus.text))),
      ("type", .described "Type of condition (Deployed, Ready)" .text)]
    ["lastTransitionTime", "reason", "status", "type"]

/-- References to managed objects. -/
def managedRef : Schema :=
  .described
    ("Weak reference to a managed object\n\n"
      ++ "References are re-resolved on every reconcile; an object that no longer exists is "
      ++ "dropped from the list rather than treated as an error.") <|
    .record
      [("kind", .described "Kind of the referenced object"
          (.oneOf ([ManagedKind.pod, .configMap].map ManagedKind.text))),
        ("name", .described "Name of the referenced object" .text),
        ("namespace", .described "Namespace of the referenced object" .text)]
      ["kind", "name", "namespace"]

/-- A list in a status, which is empty at first. -/
def statusList (purpose : String) (item : Schema) : Schema :=
  .default (.arr []) (.described purpose (.listOf item))

/-- A status, which an object does not have at first. -/
def status (purpose : String) (fields : List (String × Schema)) : Schema :=
  .nullable (.described purpose (.record fields []))

end Schema

open Schema (texts requirements resourceList)

namespace InstanceSpec

/-- What the specification of an instance admits. -/
def schema : Schema :=
  .described "Specification for a Buildkit instance" <| .record
    [("annotations", .described "Extra annotations for the pod" texts),
      ("labels", .described "Extra labels for the pod" texts),
      ("maximum",
        .described "Ceiling override; can only lower the template ceiling" resourceList),
      ("resources",
        .nullable (.described "Resource override; limits above the template default are ignored"
          requirements)),
      ("template", .described "Name of the BuildkitTemplate to build from" .text)]
    ["template"]

end InstanceSpec

namespace InstanceStatus

/-- What the status of an instance admits. -/
def schema : Schema :=
  Schema.status
    ("Status for a Buildkit instance\n\n"
      ++ "Every field is always serialized so a merge patch clears stale values.")
    [("conditions",
        Schema.statusList "Conditions representing the instance state" Schema.condition),
      ("endpoint", .default (.str "") (.described
        "buildkitd address, `tcp://<ip>:<port>`, set only while the pod is ready" .text)),
      ("resourceRefs", Schema.statusList "Objects managed for this instance" Schema.managedRef)]

end InstanceStatus

namespace TemplateResources

/-- What resource defaults and ceiling admit. -/
def schema : Schema :=
  .record
    [("default", .default Requirements.empty.toJson
        (.described "Requirements used when an instance asks for nothing else" requirements)),
      ("maximum", .described "Largest limit any instance may receive" resourceList)]
    []

end TemplateResources

namespace TemplateScheduling

/-- What scheduling settings admit. -/
def schema : Schema :=
  .record
    [("affinity", .described "Affinity" .anyObject),
      ("nodeSelector", .described "Node selector" texts),
      ("priorityClassName", .described "Priority class name" .text),
      ("tolerations", .described "Tolerations" (.listOf .anyObject)),
      ("topologySpreadConstraints",
        .described "Topology spread constraints" (.listOf .anyObject))]
    []

end TemplateScheduling

namespace TemplateLifecycle

/-- What lifecycle settings admit. -/
def schema : Schema :=
  .record
    [("activeDeadlineSeconds", .nullable (.described "Hard deadline for the pod" .int64)),
      ("preStopScript", .default (.bool false)
        (.described "Install a pre-stop hook that waits for in-flight builds" .truth)),
      ("requireOwner",
        .default (.bool false) (.described "Instances must carry an owner reference" .truth)),
      ("restartPolicy", .described "Restart policy override" .text),
      ("terminationGracePeriodSeconds",
        .nullable (.described "Termination grace period override" .int64))]
    []

end TemplateLifecycle

namespace TemplateObservability

/-- What settings for logs and traces admit. -/
def schema : Schema :=
  .record
    [("debugLogging", .default (.bool false) (.described "Run buildkitd with `--debug`" .truth)),
      ("otlp", .nullable (.described "OpenTelemetry export settings" (.record
        [("resourceAttributes", .described "Extra resource attributes" texts),
          ("serviceName", .described "Service name reported by buildkitd" .text)]
        ["serviceName"])))]
    []

end TemplateObservability

namespace TemplateSpec

/-- What the specification of a template admits. -/
def schema : Schema :=
  .described "Specification for a BuildkitTemplate" <| .record
    [("buildkitdToml", .described "buildkitd.toml contents" .text),
      ("command", .described "Entrypoint override for buildkitd" (.listOf .text)),
      ("hostUsers", .nullable (.described
        "Share the host user namespace; false runs the pod in its own user namespace" .truth)),
      ("image", .described "Container image for buildkitd" .text),
      ("imagePullPolicy", .described "Image pull policy for buildkitd" .text),
      ("lifecycle", .default (TemplateLifecycle.toJson {})
        (.described "Lifecycle settings" TemplateLifecycle.schema)),
      ("observability", .default (TemplateObservability.toJson {})
        (.described "Logging and tracing settings" TemplateObservability.schema)),
      ("podAnnotations",
        .described "Extra annotations applied to every Buildkit pod" texts),
      ("podLabels", .described "Extra labels applied to every Buildkit pod" texts),
      ("podTemplate", .described "Partial pod merged over everything above" .anyObject),
      ("port", .default (.int defaultPort) (.described "TCP port buildkitd listens on" .int32)),
      ("resources", .default (TemplateResources.toJson {})
        (.described "Resource defaults and ceiling" TemplateResources.schema)),
      ("rootless",
        .default (.bool false) (.described "Run buildkitd without privileges" .truth)),
      ("scheduling", .default (TemplateScheduling.toJson {})
        (.described "Scheduling constraints" TemplateScheduling.schema)),
      ("serviceAccountName", .described "Service account the pods run as" .text)]
    []

end TemplateSpec

namespace TemplateStatus

/-- What the status of a template admits. -/
def schema : Schema :=
  Schema.status "Status for a BuildkitTemplate"
    [("conditions",
        Schema.statusList "Conditions representing the template state" Schema.condition),
      ("observedGeneration",
        .nullable (.described "Generation the status was computed from" .int64)),
      ("resourceRefs",
        Schema.statusList "ConfigMaps published for this template" Schema.managedRef)]

end TemplateStatus

/-- The column with the age of an object. -/
def PrinterColumn.age : PrinterColumn := ⟨"Age", "date", ".metadata.creationTimestamp"⟩

/-- The definition of instances. -/
def Instance.definition : Definition where
  kind := Instance.kind
  singular := "buildkit"
  plural := "buildkits"
  shortNames := ["bk"]
  columns := [⟨"Template", "string", ".spec.template"⟩, ⟨"Endpoint", "string", ".status.endpoint"⟩,
    ⟨"Ready", "string", ".status.conditions[?(@.type==\"Ready\")].status"⟩, .age]
  spec := InstanceSpec.schema
  status := InstanceStatus.schema

/-- The definition of templates. -/
def Template.definition : Definition where
  kind := Template.kind
  singular := "buildkittemplate"
  plural := "buildkittemplates"
  shortNames := ["bkt"]
  columns := [⟨"Port", "integer", ".spec.port"⟩, ⟨"Rootless", "boolean", ".spec.rootless"⟩, .age]
  spec := TemplateSpec.schema
  status := TemplateStatus.schema

end BuildFleet
