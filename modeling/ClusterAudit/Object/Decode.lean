/-
Reading objects in the JSON form the Kubernetes API gives them. A list that is
missing or `null` is empty, and so is a part that has to be there. An object
may state its own type, but then it has to be the right one. Volume snapshots
are stricter, for they come from an extension: they have to have metadata and
a specification, and what they say of their type is not looked at.
-/
import ClusterAudit.Kind
import ClusterAudit.Object.Basic
import ClusterAudit.Object.Pod

namespace ClusterAudit

open Json (Fields)

/-- The fields of an object of the kind `k`. -/
def Kind.fields? (k : Kind) (j : Json) : Option Fields :=
  j.object?.filter fun fields =>
    Fields.declares fields "apiVersion" k.apiVersion && Fields.declares fields "kind" k.name

namespace Json.Fields

variable {α : Type}

/-- A part of its own, of which the fields that matter are read by `f`. -/
def part (fields : Fields) (f : Fields → Option α) (name : String) : Option (Option α) :=
  fields.optional (fun j => j.object?.bind f) name

/-- The same for a part whose absence is as good as its having no fields. -/
def inner (fields : Fields) (f : Fields → Option α) (name : String) : Option α :=
  match fields.part f name with
  | some (some a) => some a
  | some none => f []
  | none => none

def has (fields : Fields) (name : String) : Option Bool :=
  (fields.part (fun _ => some ()) name).map Option.isSome

def text (fields : Fields) (name : String) : Option String := fields.defaulted Json.string? "" name

def text? (fields : Fields) (name : String) : Option (Option String) :=
  fields.optional Json.string? name

def flag? (fields : Fields) (name : String) : Option (Option Bool) :=
  fields.optional Json.bool? name

def strings (fields : Fields) (name : String) : Option (List String) :=
  fields.defaulted Json.strings? [] name

def map (fields : Fields) (name : String) : Option StringMap :=
  fields.defaulted Json.stringMap? {} name

/-- A list of parts. -/
def parts (fields : Fields) (f : Fields → Option α) (name : String) : Option (List α) :=
  fields.defaulted (Json.list? fun j => j.object?.bind f) [] name

/-- The name inside a reference by name alone. -/
def nameIn (fields : Fields) (name : String) : Option (Option String) :=
  fields.part (·.text "name") name

/-- The names inside a list of such references. -/
def namesIn (fields : Fields) (name : String) : Option (List String) :=
  fields.parts (·.text "name") name

def metadata (fields : Fields) : Option Metadata :=
  fields.defaulted Metadata.decode? {} "metadata"

/-- Fields that have to be of their type, although nobody looks at them. -/
def fit (fields : Fields) (f : Json → Option α) (names : List String) : Option Unit :=
  names.forM fun name => (fields.optional f name).map fun _ => ()

def fitParts (fields : Fields) (names : List String) : Option Unit := fields.fit Json.object? names

end Json.Fields

/-! ## Pods -/

namespace Container

def ofFields? (f : Fields) : Option Container := do
  return {
    name := ← f.text "name"
    image := ← f.text? "image"
    hasLivenessProbe := ← f.has "livenessProbe"
    hasReadinessProbe := ← f.has "readinessProbe"
    resources := ← f.inner (fun f => do
      return { requests := ← f.map "requests", limits := ← f.map "limits" }) "resources"
    security := ← f.inner (fun f => do
      return {
        privileged := ← f.flag? "privileged"
        runAsNonRoot := ← f.flag? "runAsNonRoot"
        allowPrivilegeEscalation := ← f.flag? "allowPrivilegeEscalation" }) "securityContext"
    env := ← (f.parts (fun f => f.part (fun f => do
      return {
        configMap := ← f.nameIn "configMapKeyRef"
        secret := ← f.nameIn "secretKeyRef" }) "valueFrom") "env").map (·.filterMap id)
    envFrom := ← f.parts (fun f => do
      return { configMap := ← f.nameIn "configMapRef", secret := ← f.nameIn "secretRef" }) "envFrom" }

end Container

namespace Volume

def ofFields? (f : Fields) : Option Volume := do
  return {
    name := ← f.text "name"
    hasHostPath := ← f.has "hostPath"
    configMap := ← f.nameIn "configMap"
    secret := (← f.part (·.text? "secretName") "secret").join
    claim := ← f.part (·.text "claimName") "persistentVolumeClaim"
    projected := ← f.inner (·.parts (fun f => do
      return { configMap := ← f.nameIn "configMap", secret := ← f.nameIn "secret" }) "sources")
      "projected" }

end Volume

namespace PodSpec

def ofFields? (f : Fields) : Option PodSpec := do
  return {
    containers := ← f.parts Container.ofFields? "containers"
    initContainers := ← f.parts Container.ofFields? "initContainers"
    volumes := ← f.parts Volume.ofFields? "volumes"
    imagePullSecrets := ← f.namesIn "imagePullSecrets"
    nodeName := ← f.text? "nodeName"
    nodeSelector := ← f.map "nodeSelector"
    hostNetwork := ← f.flag? "hostNetwork"
    hostPID := ← f.flag? "hostPID"
    hostIPC := ← f.flag? "hostIPC"
    runAsNonRoot := ← f.inner (·.flag? "runAsNonRoot") "securityContext" }

end PodSpec

def Pod.decode? (j : Json) : Option Pod := do
  let f ← Kind.pod.fields? j
  f.fitParts ["status"]
  return { metadata := ← f.metadata, spec := ← f.part PodSpec.ofFields? "spec" }

def PodTemplate.decode? (j : Json) : Option PodTemplate := do
  let f ← Kind.podTemplate.fields? j
  return {
    metadata := ← f.metadata
    spec := (← f.part (·.part PodSpec.ofFields? "spec") "template").join }

/-! ## Nodes and storage -/

def Node.decode? (j : Json) : Option Node := do
  let f ← Kind.node.fields? j
  f.fitParts ["spec"]
  return {
    metadata := ← f.metadata
    conditions := ← f.inner (·.parts (fun f => do
      return { type := ← f.text "type", status := ← f.text "status" }) "conditions") "status" }

def PersistentVolume.decode? (j : Json) : Option PersistentVolume := do
  let f ← Kind.persistentVolume.fields? j
  f.fitParts ["status"]
  return { metadata := ← f.metadata, isClaimed := ← f.inner (·.has "claimRef") "spec" }

def PersistentVolumeClaim.decode? (j : Json) : Option PersistentVolumeClaim := do
  let f ← Kind.persistentVolumeClaim.fields? j
  f.fitParts ["status"]
  return {
    metadata := ← f.metadata
    storageClass := ← f.inner (·.text? "storageClassName") "spec" }

def StorageClass.decode? (j : Json) : Option StorageClass := do
  let f ← Kind.storageClass.fields? j
  f.fit Json.bool? ["allowVolumeExpansion"]
  f.fit (Json.list? Json.object?) ["allowedTopologies"]
  f.fit Json.strings? ["mountOptions"]
  f.fit Json.stringMap? ["parameters"]
  f.fit Json.string? ["provisioner", "reclaimPolicy", "volumeBindingMode"]
  return { metadata := ← f.metadata }

namespace SnapshotSource

def decode? (j : Json) : Option SnapshotSource := do
  let f : Fields ← j.record? ["persistentVolumeClaimName", "volumeSnapshotContentName"] 0
  return {
    claim := ← f.text? "persistentVolumeClaimName"
    content := ← f.text? "volumeSnapshotContentName" }

end SnapshotSource

namespace SnapshotError

def decode? (j : Json) : Option SnapshotError := do
  let f : Fields ← j.record? ["message", "time"] 0
  return { message := ← f.text? "message", time := ← f.text? "time" }

end SnapshotError

namespace SnapshotStatus

def decode? (j : Json) : Option SnapshotStatus := do
  let f : Fields ←
    j.record? ["readyToUse", "boundVolumeSnapshotContentName", "restoreSize", "error"] 0
  return {
    readyToUse := ← f.flag? "readyToUse"
    boundContent := ← f.text? "boundVolumeSnapshotContentName"
    restoreSize := ← f.text? "restoreSize"
    error := ← f.optional SnapshotError.decode? "error" }

end SnapshotStatus

def VolumeSnapshot.decode? (j : Json) : Option VolumeSnapshot := do
  let f : Fields ← j.record? ["metadata", "spec", "status"] 3
  let spec : Fields ←
    f.required (·.record? ["source", "volumeSnapshotClassName"] 0) "spec"
  return {
    metadata := ← f.required Metadata.decode? "metadata"
    source := ← spec.presentOr SnapshotSource.decode? {} "source"
    snapshotClass := ← spec.text? "volumeSnapshotClassName"
    status := ← f.optional SnapshotStatus.decode? "status" }

/-! ## Services, configuration and identity -/

def Service.decode? (j : Json) : Option Service := do
  let f ← Kind.service.fields? j
  f.fitParts ["status"]
  return {
    metadata := ← f.metadata
    spec := ← f.part (fun f => do
      return { type := ← f.text? "type", selector := ← f.map "selector" }) "spec" }

def ConfigMap.decode? (j : Json) : Option ConfigMap := do
  let f ← Kind.configMap.fields? j
  f.fit Json.stringMap? ["binaryData", "data"]
  f.fit Json.bool? ["immutable"]
  return { metadata := ← f.metadata }

def Secret.decode? (j : Json) : Option Secret := do
  let f ← Kind.secret.fields? j
  f.fit Json.stringMap? ["data", "stringData"]
  f.fit Json.bool? ["immutable"]
  return { metadata := ← f.metadata, type := ← f.text? "type" }

def ServiceAccount.decode? (j : Json) : Option ServiceAccount := do
  let f ← Kind.serviceAccount.fields? j
  f.fit Json.bool? ["automountServiceAccountToken"]
  return {
    metadata := ← f.metadata
    secrets := ← f.parts (fun f => do
      return { name := ← f.text? "name", ns := ← f.text? "namespace" }) "secrets"
    imagePullSecrets := ← f.namesIn "imagePullSecrets" }

/-! ## Namespaces, limits and jobs -/

def Namespace.decode? (j : Json) : Option Namespace := do
  let f ← Kind.namespaces.fields? j
  f.fitParts ["spec", "status"]
  return { metadata := ← f.metadata }

def ResourceQuota.decode? (j : Json) : Option ResourceQuota := do
  let f ← Kind.resourceQuota.fields? j
  f.fitParts ["spec", "status"]
  return { metadata := ← f.metadata }

def LimitRange.decode? (j : Json) : Option LimitRange := do
  let f ← Kind.limitRange.fields? j
  f.fitParts ["spec"]
  return { metadata := ← f.metadata }

def CronJob.decode? (j : Json) : Option CronJob := do
  let f ← Kind.cronJob.fields? j
  f.fitParts ["status"]
  return {
    metadata := ← f.metadata
    concurrencyPolicy := ← f.inner (·.text? "concurrencyPolicy") "spec" }

/-! ## Admission webhooks -/

def WebhookService.ofFields? (f : Fields) : Option WebhookService := do
  return { ns := ← f.text "namespace", name := ← f.text "name" }

def WebhookRule.ofFields? (f : Fields) : Option WebhookRule := do
  return { apiGroups := ← f.strings "apiGroups", resources := ← f.strings "resources" }

/-- A number of 32 bits. -/
def Json.Fields.seconds? (f : Fields) (name : String) : Option (Option Int) :=
  f.optional (Json.intWithin? (-0x80000000) 0x7FFFFFFF) name

def ValidatingWebhook.ofFields? (f : Fields) : Option ValidatingWebhook := do
  return {
    name := ← f.text "name"
    service := ← f.inner (·.part WebhookService.ofFields? "service") "clientConfig"
    failurePolicy := ← f.text? "failurePolicy"
    timeoutSeconds := ← f.seconds? "timeoutSeconds"
    namespaceSelector := ← f.optional LabelSelector.decode? "namespaceSelector"
    objectSelector := ← f.optional LabelSelector.decode? "objectSelector"
    rules := ← f.parts WebhookRule.ofFields? "rules" }

def ValidatingConfiguration.decode? (j : Json) : Option ValidatingConfiguration := do
  let f ← Kind.validatingWebhookConfiguration.fields? j
  return { metadata := ← f.metadata, webhooks := ← f.parts ValidatingWebhook.ofFields? "webhooks" }

/-- Only webhooks of this kind may be called again after others have changed the object. -/
def MutatingWebhook.ofFields? (f : Fields) : Option MutatingWebhook := do
  f.fit Json.string? ["reinvocationPolicy"]
  return {
    name := ← f.text "name"
    service := ← f.inner (·.part WebhookService.ofFields? "service") "clientConfig"
    failurePolicy := ← f.text? "failurePolicy"
    timeoutSeconds := ← f.seconds? "timeoutSeconds"
    namespaceSelector := ← f.optional LabelSelector.decode? "namespaceSelector"
    objectSelector := ← f.optional LabelSelector.decode? "objectSelector"
    rules := ← f.parts WebhookRule.ofFields? "rules" }

def MutatingConfiguration.decode? (j : Json) : Option MutatingConfiguration := do
  let f ← Kind.mutatingWebhookConfiguration.fields? j
  return { metadata := ← f.metadata, webhooks := ← f.parts MutatingWebhook.ofFields? "webhooks" }

end ClusterAudit
