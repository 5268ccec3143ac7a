import BuildFleet.Pod.Json
import BuildFleet.Template.Basic

/-!
# Templates in JSON

How templates and their parts are read and written. Truth values, numbers and nested records
of a template are always written, texts, lists and maps only unless they are empty.
-/

namespace BuildFleet

namespace TemplateResources

/-- Reads resource defaults and ceiling. -/
def ofJson? (j : Json) : Option TemplateResources := do
  let m ← Members.ofClosed? ["default", "maximum"] 0 j
  return {
    default := ← m.getD? "default" Requirements.ofJson? .empty
    maximum := ← m.getD? "maximum" (Json.dictOf? Quantity.ofJson?) .empty }

/-- Writes resource defaults and ceiling. -/
def toJson (r : TemplateResources) : Json :=
  Json.ofFields (Members.always "default" r.default.toJson
    ++ Members.dict "maximum" Quantity.toJson r.maximum)

end TemplateResources

namespace TemplateScheduling

/-- Reads scheduling settings. -/
def ofJson? (j : Json) : Option TemplateScheduling := do
  let m ← Members.ofClosed? ["nodeSelector", "tolerations", "affinity", "priorityClassName",
    "topologySpreadConstraints"] 0 j
  return {
    nodeSelector := ← m.getD? "nodeSelector" (Json.dictOf? Json.text?) .empty
    tolerations := ← m.getD? "tolerations" (Json.listOf? Toleration.ofJson?) []
    affinity := ← m.optional? "affinity" FreeForm.ofJson?
    priorityClassName := ← m.getD? "priorityClassName" Json.text? ""
    topologySpreadConstraints := ← m.getD? "topologySpreadConstraints"
      (Json.listOf? TopologySpreadConstraint.ofJson?) [] }

/-- Writes scheduling settings. -/
def toJson (s : TemplateScheduling) : Json :=
  Json.ofFields (Members.dict "nodeSelector" Json.str s.nodeSelector
    ++ Members.list "tolerations" Toleration.toJson s.tolerations
    ++ Members.option "affinity" FreeForm.toJson s.affinity
    ++ Members.text "priorityClassName" s.priorityClassName
    ++ Members.list "topologySpreadConstraints" TopologySpreadConstraint.toJson
        s.topologySpreadConstraints)

end TemplateScheduling

namespace TemplateLifecycle

/-- Reads lifecycle settings. -/
def ofJson? (j : Json) : Option TemplateLifecycle := do
  let m ← Members.ofClosed? ["requireOwner", "restartPolicy", "terminationGracePeriodSeconds",
    "activeDeadlineSeconds", "preStopScript"] 0 j
  return {
    requireOwner := ← m.getD? "requireOwner" Json.bool? false
    restartPolicy := ← m.getD? "restartPolicy" Json.text? ""
    terminationGracePeriodSeconds := ← m.optional? "terminationGracePeriodSeconds" Json.int64?
    activeDeadlineSeconds := ← m.optional? "activeDeadlineSeconds" Json.int64?
    preStopScript := ← m.getD? "preStopScript" Json.bool? false }

/-- Writes lifecycle settings. -/
def toJson (l : TemplateLifecycle) : Json :=
  Json.ofFields (Members.always "requireOwner" (.bool l.requireOwner)
    ++ Members.text "restartPolicy" l.restartPolicy
    ++ Members.option "terminationGracePeriodSeconds" Json.int l.terminationGracePeriodSeconds
    ++ Members.option "activeDeadlineSeconds" Json.int l.activeDeadlineSeconds
    ++ Members.always "preStopScript" (.bool l.preStopScript))

end TemplateLifecycle

namespace OtlpSettings

/-- Reads settings for OpenTelemetry. -/
def ofJson? (j : Json) : Option OtlpSettings := do
  let m ← Members.ofClosed? ["serviceName", "resourceAttributes"] 1 j
  return {
    serviceName := ← m.required? "serviceName" Json.text?
    resourceAttributes := ← m.getD? "resourceAttributes" (Json.dictOf? Json.text?) .empty }

/-- Writes settings for OpenTelemetry. -/
def toJson (o : OtlpSettings) : Json :=
  Json.ofFields (Members.always "serviceName" (.str o.serviceName)
    ++ Members.dict "resourceAttributes" Json.str o.resourceAttributes)

end OtlpSettings

namespace TemplateObservability

/-- Reads settings for logs and traces. -/
def ofJson? (j : Json) : Option TemplateObservability := do
  let m ← Members.ofClosed? ["debugLogging", "otlp"] 0 j
  return {
    debugLogging := ← m.getD? "debugLogging" Json.bool? false
    otlp := ← m.optional? "otlp" OtlpSettings.ofJson? }

/-- Writes settings for logs and traces. -/
def toJson (o : TemplateObservability) : Json :=
  Json.ofFields (Members.always "debugLogging" (.bool o.debugLogging)
    ++ Members.option "otlp" OtlpSettings.toJson o.otlp)

end TemplateObservability

namespace TemplateSpec

/-- The names of the fields, in order. -/
def names : List String :=
  ["podLabels", "podAnnotations", "rootless", "port", "buildkitdToml", "image",
    "imagePullPolicy", "resources", "command", "serviceAccountName", "scheduling", "lifecycle",
    "observability", "hostUsers", "podTemplate"]

/-- Reads a specification; every field may be left out. -/
def ofJson? (j : Json) : Option TemplateSpec := do
  let m ← Members.ofClosed? names 0 j
  return {
    podLabels := ← m.getD? "podLabels" (Json.dictOf? Json.text?) .empty
    podAnnotations := ← m.getD? "podAnnotations" (Json.dictOf? Json.text?) .empty
    rootless := ← m.getD? "rootless" Json.bool? false
    port := ← m.getD? "port" Json.int32? defaultPort
    buildkitdToml := ← m.getD? "buildkitdToml" Json.text? ""
    image := ← m.getD? "image" Json.text? ""
    imagePullPolicy := ← m.getD? "imagePullPolicy" Json.text? ""
    resources := ← m.getD? "resources" TemplateResources.ofJson? {}
    command := ← m.getD? "command" (Json.listOf? Json.text?) []
    serviceAccountName := ← m.getD? "serviceAccountName" Json.text? ""
    scheduling := ← m.getD? "scheduling" TemplateScheduling.ofJson? {}
    lifecycle := ← m.getD? "lifecycle" TemplateLifecycle.ofJson? {}
    observability := ← m.getD? "observability" TemplateObservability.ofJson? {}
    hostUsers := ← m.optional? "hostUsers" Json.bool?
    podTemplate := ← m.optional? "podTemplate" Pod.ofJson? }

/-- Writes a specification. -/
def toJson (s : TemplateSpec) : Json :=
  Json.ofFields (Members.dict "podLabels" Json.str s.podLabels
    ++ Members.dict "podAnnotations" Json.str s.podAnnotations
    ++ Members.always "rootless" (.bool s.rootless)
    ++ Members.always "port" (.int s.port)
    ++ Members.text "buildkitdToml" s.buildkitdToml
    ++ Members.text "image" s.image
    ++ Members.text "imagePullPolicy" s.imagePullPolicy
    ++ Members.always "resources" s.resources.toJson
    ++ Members.list "command" Json.str s.command
    ++ Members.text "serviceAccountName" s.serviceAccountName
    ++ Members.always "scheduling" s.scheduling.toJson
    ++ Members.always "lifecycle" s.lifecycle.toJson
    ++ Members.always "observability" s.observability.toJson
    ++ Members.option "hostUsers" Json.bool s.hostUsers
    ++ Members.option "podTemplate" Pod.toJson s.podTemplate)

end TemplateSpec

namespace TemplateStatus

/-- Reads a status. -/
def ofJson? (j : Json) : Option TemplateStatus := do
  let m ← Members.ofClosed? ["conditions", "resourceRefs", "observedGeneration"] 0 j
  return {
    conditions := ← m.getD? "conditions" (Json.listOf? Condition.ofJson?) []
    refs := ← m.getD? "resourceRefs" (Json.listOf? ManagedRef.ofJson?) []
    observedGeneration := ← m.optional? "observedGeneration" Json.int64? }

/-- Writes a status. -/
def toJson (s : TemplateStatus) : Json :=
  Json.ofFields (Members.always "conditions" (.arr (s.conditions.map Condition.toJson))
    ++ Members.always "resourceRefs" (.arr (s.refs.map ManagedRef.toJson))
    ++ Members.option "observedGeneration" Json.int s.observedGeneration)

end TemplateStatus

namespace Template

/-- Reads a template. -/
def ofJson? (j : Json) : Option Template := do
  let m ← Members.ofClosed? ["metadata", "spec", "status"] 3 j
  return {
    metadata := ← m.required? "metadata" ObjectMeta.ofJson?
    spec := ← m.required? "spec" TemplateSpec.ofJson?
    status := ← m.optional? "status" TemplateStatus.ofJson? }

/-- Writes a template. -/
def toJson (t : Template) : Json :=
  Json.ofFields (Members.always "apiVersion" (.str apiVersion)
    ++ Members.always "kind" (.str kind)
    ++ Members.always "metadata" t.metadata.toJson
    ++ Members.always "spec" t.spec.toJson
    ++ Members.option "status" TemplateStatus.toJson t.status)

end Template

end BuildFleet
