/-
The kinds of objects that a cluster is made of, as far as this program looks
at them, with the facts about each that the Kubernetes API fixes: its name, the
version of its group, where its objects are listed, and whether they live in
namespaces.
-/
import ClusterAudit.Json

namespace ClusterAudit

inductive Kind where
  | pod
  | podTemplate
  | persistentVolumeClaim
  | persistentVolume
  | configMap
  | service
  | secret
  | serviceAccount
  | node
  | namespaces
  | resourceQuota
  | limitRange
  | storageClass
  | cronJob
  | volumeSnapshot
  | validatingWebhookConfiguration
  | mutatingWebhookConfiguration
  deriving DecidableEq, Repr

namespace Kind

def all : List Kind :=
  [.node, .persistentVolume, .persistentVolumeClaim, .pod, .podTemplate, .configMap, .service,
   .secret, .serviceAccount, .resourceQuota, .limitRange, .storageClass,
   .mutatingWebhookConfiguration, .validatingWebhookConfiguration, .namespaces, .cronJob,
   .volumeSnapshot]

def name : Kind → String
  | .pod => "Pod"
  | .podTemplate => "PodTemplate"
  | .persistentVolumeClaim => "PersistentVolumeClaim"
  | .persistentVolume => "PersistentVolume"
  | .configMap => "ConfigMap"
  | .service => "Service"
  | .secret => "Secret"
  | .serviceAccount => "ServiceAccount"
  | .node => "Node"
  | .namespaces => "Namespace"
  | .resourceQuota => "ResourceQuota"
  | .limitRange => "LimitRange"
  | .storageClass => "StorageClass"
  | .cronJob => "CronJob"
  | .volumeSnapshot => "VolumeSnapshot"
  | .validatingWebhookConfiguration => "ValidatingWebhookConfiguration"
  | .mutatingWebhookConfiguration => "MutatingWebhookConfiguration"

/-- The name of the collection of all objects of the kind. -/
def collection : Kind → String
  | .pod => "pods"
  | .podTemplate => "podTemplates"
  | .persistentVolumeClaim => "persistentVolumeClaims"
  | .persistentVolume => "persistentVolumes"
  | .configMap => "configMaps"
  | .service => "services"
  | .secret => "secrets"
  | .serviceAccount => "serviceAccounts"
  | .node => "nodes"
  | .namespaces => "namespaces"
  | .resourceQuota => "resourceQuotas"
  | .limitRange => "limitRanges"
  | .storageClass => "storageClasses"
  | .cronJob => "cronJobs"
  | .volumeSnapshot => "volumeSnapshots"
  | .validatingWebhookConfiguration => "validatingWebhookConfigurations"
  | .mutatingWebhookConfiguration => "mutatingWebhookConfigurations"

/-- The group and version of the kind, as objects state it. -/
def apiVersion : Kind → String
  | .storageClass => "storage.k8s.io/v1"
  | .cronJob => "batch/v1"
  | .volumeSnapshot => "snapshot.storage.k8s.io/v1"
  | .validatingWebhookConfiguration => "admissionregistration.k8s.io/v1"
  | .mutatingWebhookConfiguration => "admissionregistration.k8s.io/v1"
  | _ => "v1"

/-- Where the API server lists the objects of the kind, of all namespaces. -/
def path (k : Kind) : String :=
  let root := match k with
    | .storageClass | .cronJob | .volumeSnapshot | .validatingWebhookConfiguration
    | .mutatingWebhookConfiguration => "/apis/"
    | _ => "/api/"
  root ++ k.apiVersion ++ "/" ++ k.collection.map Char.toLower

/-- Whether objects of the kind live in namespaces. -/
def isNamespaced : Kind → Bool
  | .node | .persistentVolume | .storageClass | .namespaces | .validatingWebhookConfiguration
  | .mutatingWebhookConfiguration => false
  | _ => true

def ofName? (s : String) : Option Kind := all.find? (·.name == s)

def ofCollection? (s : String) : Option Kind := all.find? (·.collection == s)

def encode (k : Kind) : Json := .str k.name

/-- The exact name, or an object with that name for its one field and `null`
in it. -/
def decode? : Json → Option Kind
  | .str s => ofName? s
  | .obj [(s, .null)] => ofName? s
  | _ => none

theorem mem_all (k : Kind) : k ∈ all := by cases k <;> simp [all]

@[simp] theorem ofName?_name (k : Kind) : ofName? k.name = some k := by cases k <;> decide

@[simp] theorem decode?_encode (k : Kind) : decode? k.encode = some k := ofName?_name k

end Kind

end ClusterAudit
