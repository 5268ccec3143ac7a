import BuildFleet.Proofs.Merge.Composed

/-!
# How the records of a pod merge

For each record of a pod, the rules of its fields: which part of the record a field is, under which
name it is found, and how it merges. A record has three facts beside its list of parts.

* `fieldwise`: the list agrees with the record's merge, field by field, and no field is missing
  from it;
* `keepsKey`: where the record is an element of keyed lists, a merged element has the base's key;
* `composed`: so the results about composed rules hold of the record, as an element of a keyed list
  if it is one.

The list is in the order in which the merge goes through the fields. Where the key of an element is
a field that layers do not reach, the field is fixed; a container's name is merged like any other
text, and stays the same because the names are.

> `Pod.composed`: what holds of composed rules holds of pods.
-/

namespace BuildFleet

/-! ## Numbers as keys

A port is found by its number, so numbers must not have their text in common. -/

/-- Natural numbers with the same digits are the same. -/
theorem nat_eq_of_repr {a b : Nat} (h : a.repr = b.repr) : a = b := by
  have hdigits : Nat.toDigits 10 a = Nat.toDigits 10 b := by
    rw [← Nat.toList_repr, ← Nat.toList_repr, h]
  rw [← Nat.ofDigitChars_toDigits (by decide) (Nat.le_refl 10) (n := a), hdigits,
    Nat.ofDigitChars_toDigits (by decide) (Nat.le_refl 10)]

/-- No natural number is written with a sign. -/
theorem repr_ne_sign {a : Nat} {s : String} : a.repr ≠ "-" ++ s := by
  intro h
  have hsign : '-' ∈ Nat.toDigits 10 a := by
    rw [← Nat.toList_repr, h, String.toList_append]
    exact List.mem_cons_self
  exact Bool.false_ne_true (Nat.isDigit_of_mem_toDigits (by decide) (Nat.le_refl 10) hsign)

/-- Numbers that are written alike are the same. -/
theorem int_eq_of_repr : ∀ {a b : Int}, a.repr = b.repr → a = b
  | .ofNat _, .ofNat _, h => congrArg Int.ofNat (nat_eq_of_repr h)
  | .ofNat _, .negSucc _, h => absurd h repr_ne_sign
  | .negSucc _, .ofNat _, h => absurd h.symm repr_ne_sign
  | .negSucc a, .negSucc b, h => by
    have hsucc : a.succ = b.succ := nat_eq_of_repr (String.append_right_inj "-" |>.mp h)
    rw [Nat.succ.inj hsucc]

/-! ## Parts of containers -/

def Requirements.parts : List (Step × Facet Requirements) := [
  (.field "limits", ⟨(·.limits), .dict .quantity⟩),
  (.field "requests", ⟨(·.requests), .dict .quantity⟩)]

abbrev Requirements.rules : Rules Requirements := .record parts

theorem Requirements.fieldwise : Fieldwise parts where
  steps := by simp [parts]
  assembles _ _ := ⟨_, rfl, .field rfl rfl fun _ => .field rfl rfl fun _ => .pure _⟩
  ext := by
    rintro ⟨⟩ ⟨⟩ h
    simpa [parts] using h

@[simp] theorem Requirements.composed : Composed rules :=
  .record fieldwise (by simp [parts]) (by simp [parts])

def EnvVar.parts : List (Step × Facet EnvVar) := [
  (.field "name", ⟨(·.name), .fixed .text⟩),
  (.field "value", ⟨(·.value), .text⟩),
  (.rest, ⟨(·.extra), .freeForm⟩)]

abbrev EnvVar.rules : Rules EnvVar := .element mergeKey parts

theorem EnvVar.fieldwise : Fieldwise parts where
  steps := by simp [parts]
  assembles _ _ := ⟨_, rfl, .given rfl (.field rfl rfl fun _ => .rest rfl rfl fun _ => .pure _)⟩
  ext := by
    rintro ⟨⟩ ⟨⟩ h
    simpa [parts] using h

theorem EnvVar.keepsKey : KeepsKey mergeKey := fun _ _ _ => rfl

@[simp] theorem EnvVar.composed : Composed (rules.keyed mergeKey) :=
  .elements (.element fieldwise (by simp [parts]) (by simp [parts, mergeKey])) keepsKey

def ContainerPort.parts : List (Step × Facet ContainerPort) := [
  (.field "name", ⟨(·.name), .text⟩),
  (.field "containerPort", ⟨(·.containerPort), .fixed .number⟩),
  (.field "protocol", ⟨(·.protocol), .text⟩),
  (.rest, ⟨(·.extra), .freeForm⟩)]

abbrev ContainerPort.rules : Rules ContainerPort := .element mergeKey parts

theorem ContainerPort.fieldwise : Fieldwise parts where
  steps := by simp [parts]
  assembles _ _ := ⟨_, rfl, .field rfl rfl fun _ => .given rfl (.field rfl rfl fun _ =>
    .rest rfl rfl fun _ => .pure _)⟩
  ext := by
    rintro ⟨⟩ ⟨⟩ h
    simpa [parts] using h

theorem ContainerPort.keepsKey : KeepsKey mergeKey := fun _ _ _ => rfl

@[simp] theorem ContainerPort.composed : Composed (rules.keyed mergeKey) :=
  .elements (.element fieldwise (by simp [parts]) (by
    simpa [parts, mergeKey] using fun _ _ => int_eq_of_repr))
    keepsKey

def VolumeMount.parts : List (Step × Facet VolumeMount) := [
  (.field "name", ⟨(·.name), .text⟩),
  (.field "mountPath", ⟨(·.mountPath), .fixed .text⟩),
  (.field "readOnly", ⟨(·.readOnly), .optional .flag⟩),
  (.field "subPath", ⟨(·.subPath), .text⟩),
  (.rest, ⟨(·.extra), .freeForm⟩)]

abbrev VolumeMount.rules : Rules VolumeMount := .element mergeKey parts

theorem VolumeMount.fieldwise : Fieldwise parts where
  steps := by simp [parts]
  assembles _ _ := ⟨_, rfl, .field rfl rfl fun _ => .given rfl (.field rfl rfl fun _ =>
    .field rfl rfl fun _ => .rest rfl rfl fun _ => .pure _)⟩
  ext := by
    rintro ⟨⟩ ⟨⟩ h
    simpa [parts] using h

theorem VolumeMount.keepsKey : KeepsKey mergeKey := fun _ _ _ => rfl

@[simp] theorem VolumeMount.composed : Composed (rules.keyed mergeKey) :=
  .elements (.element fieldwise (by simp [parts]) (by simp [parts, mergeKey])) keepsKey

/-! ## Probes and hooks -/

def GrpcAction.parts : List (Step × Facet GrpcAction) := [
  (.field "port", ⟨(·.port), .port⟩),
  (.field "service", ⟨(·.service), .text⟩),
  (.rest, ⟨(·.extra), .freeForm⟩)]

abbrev GrpcAction.rules : Rules GrpcAction := .record parts

theorem GrpcAction.fieldwise : Fieldwise parts where
  steps := by simp [parts]
  assembles _ _ := ⟨_, rfl, .given rfl (.field rfl rfl fun _ => .rest rfl rfl fun _ => .pure _)⟩
  ext := by
    rintro ⟨⟩ ⟨⟩ h
    simpa [parts] using h

@[simp] theorem GrpcAction.composed : Composed rules :=
  .record fieldwise (by simp [parts]) (by simp [parts])

def ExecAction.parts : List (Step × Facet ExecAction) := [
  (.field "command", ⟨(·.command), .texts⟩),
  (.rest, ⟨(·.extra), .freeForm⟩)]

abbrev ExecAction.rules : Rules ExecAction := .record parts

theorem ExecAction.fieldwise : Fieldwise parts where
  steps := by simp [parts]
  assembles _ _ := ⟨_, rfl, .rest rfl rfl fun _ => .rest rfl rfl fun _ => .pure _⟩
  ext := by
    rintro ⟨⟩ ⟨⟩ h
    simpa [parts] using h

@[simp] theorem ExecAction.composed : Composed rules :=
  .record fieldwise (by simp [parts]) (by simp [parts])

def Probe.parts : List (Step × Facet Probe) := [
  (.field "grpc", ⟨(·.grpc), .optional GrpcAction.rules⟩),
  (.field "exec", ⟨(·.exec), .optional ExecAction.rules⟩),
  (.field "initialDelaySeconds", ⟨(·.initialDelaySeconds), .optional .number⟩),
  (.field "periodSeconds", ⟨(·.periodSeconds), .optional .number⟩),
  (.field "timeoutSeconds", ⟨(·.timeoutSeconds), .optional .number⟩),
  (.field "failureThreshold", ⟨(·.failureThreshold), .optional .number⟩),
  (.rest, ⟨(·.extra), .freeForm⟩)]

abbrev Probe.rules : Rules Probe := .record parts

theorem Probe.fieldwise : Fieldwise parts where
  steps := by simp [parts]
  assembles _ _ := ⟨_, rfl, .field rfl rfl fun _ => .field rfl rfl fun _ => .field rfl rfl fun _ =>
    .field rfl rfl fun _ => .field rfl rfl fun _ => .field rfl rfl fun _ => .rest rfl rfl fun _ =>
    .pure _⟩
  ext := by
    rintro ⟨⟩ ⟨⟩ h
    simpa [parts] using h

@[simp] theorem Probe.composed : Composed rules :=
  .record fieldwise (by simp [parts]) (by simp [parts])

def LifecycleHandler.parts : List (Step × Facet LifecycleHandler) := [
  (.field "exec", ⟨(·.exec), .optional ExecAction.rules⟩),
  (.rest, ⟨(·.extra), .freeForm⟩)]

abbrev LifecycleHandler.rules : Rules LifecycleHandler := .record parts

theorem LifecycleHandler.fieldwise : Fieldwise parts where
  steps := by simp [parts]
  assembles _ _ := ⟨_, rfl, .field rfl rfl fun _ => .rest rfl rfl fun _ => .pure _⟩
  ext := by
    rintro ⟨⟩ ⟨⟩ h
    simpa [parts] using h

@[simp] theorem LifecycleHandler.composed : Composed rules :=
  .record fieldwise (by simp [parts]) (by simp [parts])

def Lifecycle.parts : List (Step × Facet Lifecycle) := [
  (.field "preStop", ⟨(·.preStop), .optional LifecycleHandler.rules⟩),
  (.rest, ⟨(·.extra), .freeForm⟩)]

abbrev Lifecycle.rules : Rules Lifecycle := .record parts

theorem Lifecycle.fieldwise : Fieldwise parts where
  steps := by simp [parts]
  assembles _ _ := ⟨_, rfl, .field rfl rfl fun _ => .rest rfl rfl fun _ => .pure _⟩
  ext := by
    rintro ⟨⟩ ⟨⟩ h
    simpa [parts] using h

@[simp] theorem Lifecycle.composed : Composed rules :=
  .record fieldwise (by simp [parts]) (by simp [parts])

/-! ## Security -/

def SecurityProfile.parts : List (Step × Facet SecurityProfile) := [
  (.field "type", ⟨(·.type), .text⟩),
  (.field "localhostProfile", ⟨(·.localhostProfile), .text⟩),
  (.rest, ⟨(·.extra), .freeForm⟩)]

abbrev SecurityProfile.rules : Rules SecurityProfile := .record parts

theorem SecurityProfile.fieldwise : Fieldwise parts where
  steps := by simp [parts]
  assembles _ _ := ⟨_, rfl, .field rfl rfl fun _ => .field rfl rfl fun _ => .rest rfl rfl fun _ =>
    .pure _⟩
  ext := by
    rintro ⟨⟩ ⟨⟩ h
    simpa [parts] using h

@[simp] theorem SecurityProfile.composed : Composed rules :=
  .record fieldwise (by simp [parts]) (by simp [parts])

def SecurityContext.parts : List (Step × Facet SecurityContext) := [
  (.field "privileged", ⟨(·.privileged), .optional .flag⟩),
  (.field "runAsUser", ⟨(·.runAsUser), .optional .number⟩),
  (.field "runAsGroup", ⟨(·.runAsGroup), .optional .number⟩),
  (.field "runAsNonRoot", ⟨(·.runAsNonRoot), .optional .flag⟩),
  (.field "seccompProfile", ⟨(·.seccompProfile), .optional SecurityProfile.rules⟩),
  (.field "appArmorProfile", ⟨(·.appArmorProfile), .optional SecurityProfile.rules⟩),
  (.rest, ⟨(·.extra), .freeForm⟩)]

abbrev SecurityContext.rules : Rules SecurityContext := .record parts

theorem SecurityContext.fieldwise : Fieldwise parts where
  steps := by simp [parts]
  assembles _ _ := ⟨_, rfl, .field rfl rfl fun _ => .field rfl rfl fun _ => .field rfl rfl fun _ =>
    .field rfl rfl fun _ => .field rfl rfl fun _ => .field rfl rfl fun _ => .rest rfl rfl fun _ =>
    .pure _⟩
  ext := by
    rintro ⟨⟩ ⟨⟩ h
    simpa [parts] using h

@[simp] theorem SecurityContext.composed : Composed rules :=
  .record fieldwise (by simp [parts]) (by simp [parts])

/-! ## Containers -/

def Container.parts : List (Step × Facet Container) := [
  (.field "name", ⟨(·.name), .text⟩),
  (.field "image", ⟨(·.image), .text⟩),
  (.field "imagePullPolicy", ⟨(·.imagePullPolicy), .text⟩),
  (.field "command", ⟨(·.command), .texts⟩),
  (.field "args", ⟨(·.args), .texts⟩),
  (.field "env", ⟨(·.env), EnvVar.rules.keyed EnvVar.mergeKey⟩),
  (.field "ports", ⟨(·.ports), ContainerPort.rules.keyed ContainerPort.mergeKey⟩),
  (.field "volumeMounts", ⟨(·.volumeMounts), VolumeMount.rules.keyed VolumeMount.mergeKey⟩),
  (.field "resources", ⟨(·.resources), .optional Requirements.rules⟩),
  (.field "readinessProbe", ⟨(·.readinessProbe), .optional Probe.rules⟩),
  (.field "livenessProbe", ⟨(·.livenessProbe), .optional Probe.rules⟩),
  (.field "lifecycle", ⟨(·.lifecycle), .optional Lifecycle.rules⟩),
  (.field "securityContext", ⟨(·.securityContext), .optional SecurityContext.rules⟩),
  (.rest, ⟨(·.extra), .freeForm⟩)]

abbrev Container.rules : Rules Container := .element mergeKey parts

theorem Container.fieldwise : Fieldwise parts where
  steps := by simp [parts]
  assembles _ _ := ⟨_, rfl, .field rfl rfl fun _ => .field rfl rfl fun _ => .field rfl rfl fun _ =>
    .rest rfl rfl fun _ => .rest rfl rfl fun _ => .field rfl rfl fun _ => .field rfl rfl fun _ =>
    .field rfl rfl fun _ => .field rfl rfl fun _ => .field rfl rfl fun _ => .field rfl rfl fun _ =>
    .field rfl rfl fun _ => .field rfl rfl fun _ => .rest rfl rfl fun _ => .pure _⟩
  ext := by
    rintro ⟨⟩ ⟨⟩ h
    simpa [parts] using h

theorem Container.keepsKey : KeepsKey mergeKey := fun b l h => by
  show (if l.name.isEmpty then b.name else l.name) = b.name
  split
  · rfl
  · exact h.symm

@[simp] theorem Container.composed : Composed (rules.keyed mergeKey) :=
  .elements (.element fieldwise (by simp [parts]) (by simp [parts, mergeKey])) keepsKey

/-! ## Volumes -/

def EmptyDirSource.parts : List (Step × Facet EmptyDirSource) := [
  (.field "medium", ⟨(·.medium), .text⟩),
  (.field "sizeLimit", ⟨(·.sizeLimit), .optional .quantity⟩),
  (.rest, ⟨(·.extra), .freeForm⟩)]

abbrev EmptyDirSource.rules : Rules EmptyDirSource := .record parts

theorem EmptyDirSource.fieldwise : Fieldwise parts where
  steps := by simp [parts]
  assembles _ _ := ⟨_, rfl, .field rfl rfl fun _ => .field rfl rfl fun _ => .rest rfl rfl fun _ =>
    .pure _⟩
  ext := by
    rintro ⟨⟩ ⟨⟩ h
    simpa [parts] using h

@[simp] theorem EmptyDirSource.composed : Composed rules :=
  .record fieldwise (by simp [parts]) (by simp [parts])

def ConfigMapSource.parts : List (Step × Facet ConfigMapSource) := [
  (.field "name", ⟨(·.name), .text⟩),
  (.field "defaultMode", ⟨(·.defaultMode), .optional .number⟩),
  (.field "optional", ⟨(·.optional), .optional .flag⟩),
  (.rest, ⟨(·.extra), .freeForm⟩)]

abbrev ConfigMapSource.rules : Rules ConfigMapSource := .record parts

theorem ConfigMapSource.fieldwise : Fieldwise parts where
  steps := by simp [parts]
  assembles _ _ := ⟨_, rfl, .field rfl rfl fun _ => .field rfl rfl fun _ => .field rfl rfl fun _ =>
    .rest rfl rfl fun _ => .pure _⟩
  ext := by
    rintro ⟨⟩ ⟨⟩ h
    simpa [parts] using h

@[simp] theorem ConfigMapSource.composed : Composed rules :=
  .record fieldwise (by simp [parts]) (by simp [parts])

def SecretSource.parts : List (Step × Facet SecretSource) := [
  (.field "secretName", ⟨(·.secretName), .text⟩),
  (.field "defaultMode", ⟨(·.defaultMode), .optional .number⟩),
  (.rest, ⟨(·.extra), .freeForm⟩)]

abbrev SecretSource.rules : Rules SecretSource := .record parts

theorem SecretSource.fieldwise : Fieldwise parts where
  steps := by simp [parts]
  assembles _ _ := ⟨_, rfl, .field rfl rfl fun _ => .field rfl rfl fun _ => .rest rfl rfl fun _ =>
    .pure _⟩
  ext := by
    rintro ⟨⟩ ⟨⟩ h
    simpa [parts] using h

@[simp] theorem SecretSource.composed : Composed rules :=
  .record fieldwise (by simp [parts]) (by simp [parts])

def Volume.parts : List (Step × Facet Volume) := [
  (.field "name", ⟨(·.name), .fixed .text⟩),
  (.field "emptyDir", ⟨(·.emptyDir), .optional EmptyDirSource.rules⟩),
  (.field "configMap", ⟨(·.configMap), .optional ConfigMapSource.rules⟩),
  (.field "secret", ⟨(·.secret), .optional SecretSource.rules⟩),
  (.rest, ⟨(·.extra), .freeForm⟩)]

abbrev Volume.rules : Rules Volume := .element mergeKey parts

theorem Volume.fieldwise : Fieldwise parts where
  steps := by simp [parts]
  assembles _ _ := ⟨_, rfl, .given rfl (.field rfl rfl fun _ => .field rfl rfl fun _ =>
    .field rfl rfl fun _ => .rest rfl rfl fun _ => .pure _)⟩
  ext := by
    rintro ⟨⟩ ⟨⟩ h
    simpa [parts] using h

theorem Volume.keepsKey : KeepsKey mergeKey := fun _ _ _ => rfl

@[simp] theorem Volume.composed : Composed (rules.keyed mergeKey) :=
  .elements (.element fieldwise (by simp [parts]) (by simp [parts, mergeKey])) keepsKey

/-! ## Pods -/

def TopologySpreadConstraint.parts : List (Step × Facet TopologySpreadConstraint) := [
  (.field "topologyKey", ⟨(·.topologyKey), .fixed .text⟩),
  (.field "maxSkew", ⟨(·.maxSkew), .optional .number⟩),
  (.field "whenUnsatisfiable", ⟨(·.whenUnsatisfiable), .text⟩),
  (.field "labelSelector", ⟨(·.labelSelector), .optional .freeForm⟩),
  (.rest, ⟨(·.extra), .freeForm⟩)]

abbrev TopologySpreadConstraint.rules : Rules TopologySpreadConstraint := .element mergeKey parts

theorem TopologySpreadConstraint.fieldwise : Fieldwise parts where
  steps := by simp [parts]
  assembles _ _ := ⟨_, rfl, .given rfl (.field rfl rfl fun _ => .field rfl rfl fun _ =>
    .field rfl rfl fun _ => .rest rfl rfl fun _ => .pure _)⟩
  ext := by
    rintro ⟨⟩ ⟨⟩ h
    simpa [parts] using h

theorem TopologySpreadConstraint.keepsKey : KeepsKey mergeKey := fun _ _ _ => rfl

@[simp] theorem TopologySpreadConstraint.composed : Composed (rules.keyed mergeKey) :=
  .elements (.element fieldwise (by simp [parts]) (by simp [parts, mergeKey])) keepsKey

def LocalReference.parts : List (Step × Facet LocalReference) := [
  (.field "name", ⟨(·.name), .fixed .text⟩),
  (.rest, ⟨(·.extra), .freeForm⟩)]

abbrev LocalReference.rules : Rules LocalReference := .element mergeKey parts

theorem LocalReference.fieldwise : Fieldwise parts where
  steps := by simp [parts]
  assembles _ _ := ⟨_, rfl, .given rfl (.rest rfl rfl fun _ => .pure _)⟩
  ext := by
    rintro ⟨⟩ ⟨⟩ h
    simpa [parts] using h

theorem LocalReference.keepsKey : KeepsKey mergeKey := fun _ _ _ => rfl

@[simp] theorem LocalReference.composed : Composed (rules.keyed mergeKey) :=
  .elements (.element fieldwise (by simp [parts]) (by simp [parts, mergeKey])) keepsKey

def PodMeta.parts : List (Step × Facet PodMeta) := [
  (.field "name", ⟨(·.name), .text⟩),
  (.field "generateName", ⟨(·.generateName), .text⟩),
  (.field "namespace", ⟨(·.ns), .text⟩),
  (.field "labels", ⟨(·.labels), .dict .text⟩),
  (.field "annotations", ⟨(·.annotations), .dict .text⟩),
  (.rest, ⟨(·.extra), .freeForm⟩)]

abbrev PodMeta.rules : Rules PodMeta := .record parts

theorem PodMeta.fieldwise : Fieldwise parts where
  steps := by simp [parts]
  assembles _ _ := ⟨_, rfl, .field rfl rfl fun _ => .field rfl rfl fun _ => .field rfl rfl fun _ =>
    .field rfl rfl fun _ => .field rfl rfl fun _ => .rest rfl rfl fun _ => .pure _⟩
  ext := by
    rintro ⟨⟩ ⟨⟩ h
    simpa [parts] using h

@[simp] theorem PodMeta.composed : Composed rules :=
  .record fieldwise (by simp [parts]) (by simp [parts])

def PodSpec.parts : List (Step × Facet PodSpec) := [
  (.field "containers", ⟨(·.containers), Container.rules.keyed Container.mergeKey⟩),
  (.field "initContainers", ⟨(·.initContainers), Container.rules.keyed Container.mergeKey⟩),
  (.field "volumes", ⟨(·.volumes), Volume.rules.keyed Volume.mergeKey⟩),
  (.field "restartPolicy", ⟨(·.restartPolicy), .text⟩),
  (.field "terminationGracePeriodSeconds", ⟨(·.terminationGracePeriodSeconds), .optional .number⟩),
  (.field "activeDeadlineSeconds", ⟨(·.activeDeadlineSeconds), .optional .number⟩),
  (.field "serviceAccountName", ⟨(·.serviceAccountName), .text⟩),
  (.field "nodeSelector", ⟨(·.nodeSelector), .dict .text⟩),
  (.field "tolerations", ⟨(·.tolerations), .tolerations⟩),
  (.field "affinity", ⟨(·.affinity), .optional .freeForm⟩),
  (.field "priorityClassName", ⟨(·.priorityClassName), .text⟩),
  (.field "topologySpreadConstraints",
    ⟨(·.topologySpreadConstraints),
      TopologySpreadConstraint.rules.keyed TopologySpreadConstraint.mergeKey⟩),
  (.field "hostUsers", ⟨(·.hostUsers), .optional .flag⟩),
  (.field "imagePullSecrets",
    ⟨(·.imagePullSecrets), LocalReference.rules.keyed LocalReference.mergeKey⟩),
  (.rest, ⟨(·.extra), .freeForm⟩)]

abbrev PodSpec.rules : Rules PodSpec := .record parts

theorem PodSpec.fieldwise : Fieldwise parts where
  steps := by simp [parts]
  assembles _ _ := ⟨_, rfl, .field rfl rfl fun _ => .field rfl rfl fun _ => .field rfl rfl fun _ =>
    .field rfl rfl fun _ => .field rfl rfl fun _ => .field rfl rfl fun _ => .field rfl rfl fun _ =>
    .field rfl rfl fun _ => .rest rfl rfl fun _ => .field rfl rfl fun _ => .field rfl rfl fun _ =>
    .field rfl rfl fun _ => .field rfl rfl fun _ => .field rfl rfl fun _ => .rest rfl rfl fun _ =>
    .pure _⟩
  ext := by
    rintro ⟨⟩ ⟨⟩ h
    simpa [parts] using h

@[simp] theorem PodSpec.composed : Composed rules :=
  .record fieldwise (by simp [parts]) (by simp [parts])

def Pod.parts : List (Step × Facet Pod) := [
  (.field "metadata", ⟨(·.metadata), PodMeta.rules⟩),
  (.field "spec", ⟨(·.spec), PodSpec.rules⟩)]

abbrev Pod.rules : Rules Pod := .record parts

theorem Pod.fieldwise : Fieldwise parts where
  steps := by simp [parts]
  assembles _ _ := ⟨_, rfl, .field rfl rfl fun _ => .field rfl rfl fun _ => .pure _⟩
  ext := by
    rintro ⟨⟩ ⟨⟩ h
    simpa [parts] using h

@[simp] theorem Pod.composed : Composed rules :=
  .record fieldwise (by simp [parts]) (by simp [parts])

end BuildFleet
