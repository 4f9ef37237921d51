/-
All objects of a cluster that checks look at, as they were at one time.
`items` is the view by kind, and `build` makes a snapshot from it; all that is
done to every collection alike goes through these two.
-/
import ClusterAudit.Kind
import ClusterAudit.Object.Basic
import ClusterAudit.Object.Pod
import ClusterAudit.Scope

namespace ClusterAudit

/-- The objects of a kind. -/
abbrev Kind.Item : Kind → Type
  | .pod => Pod
  | .podTemplate => PodTemplate
  | .persistentVolumeClaim => PersistentVolumeClaim
  | .persistentVolume => PersistentVolume
  | .configMap => ConfigMap
  | .service => Service
  | .secret => Secret
  | .serviceAccount => ServiceAccount
  | .node => Node
  | .namespaces => Namespace
  | .resourceQuota => ResourceQuota
  | .limitRange => LimitRange
  | .storageClass => StorageClass
  | .cronJob => CronJob
  | .volumeSnapshot => VolumeSnapshot
  | .validatingWebhookConfiguration => ValidatingConfiguration
  | .mutatingWebhookConfiguration => MutatingConfiguration

def Kind.metadata : (k : Kind) → k.Item → Metadata
  | .pod => Pod.metadata
  | .podTemplate => PodTemplate.metadata
  | .persistentVolumeClaim => PersistentVolumeClaim.metadata
  | .persistentVolume => PersistentVolume.metadata
  | .configMap => ConfigMap.metadata
  | .service => Service.metadata
  | .secret => Secret.metadata
  | .serviceAccount => ServiceAccount.metadata
  | .node => Node.metadata
  | .namespaces => Namespace.metadata
  | .resourceQuota => ResourceQuota.metadata
  | .limitRange => LimitRange.metadata
  | .storageClass => StorageClass.metadata
  | .cronJob => CronJob.metadata
  | .volumeSnapshot => VolumeSnapshot.metadata
  | .validatingWebhookConfiguration => ValidatingConfiguration.metadata
  | .mutatingWebhookConfiguration => MutatingConfiguration.metadata

structure Snapshot where
  nodes : List Node := []
  persistentVolumes : List PersistentVolume := []
  persistentVolumeClaims : List PersistentVolumeClaim := []
  pods : List Pod := []
  podTemplates : List PodTemplate := []
  configMaps : List ConfigMap := []
  services : List Service := []
  secrets : List Secret := []
  serviceAccounts : List ServiceAccount := []
  resourceQuotas : List ResourceQuota := []
  limitRanges : List LimitRange := []
  storageClasses : List StorageClass := []
  mutatingWebhooks : List MutatingConfiguration := []
  validatingWebhooks : List ValidatingConfiguration := []
  namespaces : List Namespace := []
  cronJobs : List CronJob := []
  volumeSnapshots : List VolumeSnapshot := []
  /-- The namespace of the cluster's own components, if it could be read. -/
  systemNamespace : Option Namespace := none
  /-- The scope that the collections were last narrowed to. A reference that
  leads out of it may lead to something that exists. -/
  scope : Scope := .all

namespace Snapshot

instance : Inhabited Snapshot := ⟨{}⟩

/-- The name of the namespace of the cluster's own components. -/
def systemNamespaceName : String := "kube-system"

def items (s : Snapshot) : (k : Kind) → List k.Item
  | .pod => s.pods
  | .podTemplate => s.podTemplates
  | .persistentVolumeClaim => s.persistentVolumeClaims
  | .persistentVolume => s.persistentVolumes
  | .configMap => s.configMaps
  | .service => s.services
  | .secret => s.secrets
  | .serviceAccount => s.serviceAccounts
  | .node => s.nodes
  | .namespaces => s.namespaces
  | .resourceQuota => s.resourceQuotas
  | .limitRange => s.limitRanges
  | .storageClass => s.storageClasses
  | .cronJob => s.cronJobs
  | .volumeSnapshot => s.volumeSnapshots
  | .validatingWebhookConfiguration => s.validatingWebhooks
  | .mutatingWebhookConfiguration => s.mutatingWebhooks

def build (items : (k : Kind) → List k.Item) (systemNamespace : Option Namespace) (scope : Scope) :
    Snapshot where
  nodes := items .node
  persistentVolumes := items .persistentVolume
  persistentVolumeClaims := items .persistentVolumeClaim
  pods := items .pod
  podTemplates := items .podTemplate
  configMaps := items .configMap
  services := items .service
  secrets := items .secret
  serviceAccounts := items .serviceAccount
  resourceQuotas := items .resourceQuota
  limitRanges := items .limitRange
  storageClasses := items .storageClass
  mutatingWebhooks := items .mutatingWebhookConfiguration
  validatingWebhooks := items .validatingWebhookConfiguration
  namespaces := items .namespaces
  cronJobs := items .cronJob
  volumeSnapshots := items .volumeSnapshot
  systemNamespace := systemNamespace
  scope := scope

@[simp] theorem items_build (items : (k : Kind) → List k.Item) (n : Option Namespace) (sc : Scope)
    (k : Kind) : (build items n sc).items k = items k := by
  cases k <;> rfl

theorem build_items (s : Snapshot) : build s.items s.systemNamespace s.scope = s := rfl

theorem ext {s t : Snapshot} (h : ∀ k, s.items k = t.items k)
    (hn : s.systemNamespace = t.systemNamespace) (hs : s.scope = t.scope) : s = t := by
  rw [← build_items s, ← build_items t, show s.items = t.items from funext h, hn, hs]

/-- The metadata of all objects of a kind. -/
def metadata (s : Snapshot) (k : Kind) : List Metadata := (s.items k).map k.metadata

/-- How many objects there are. -/
def size (s : Snapshot) : Nat := Kind.all.foldl (fun n k => n + (s.items k).length) 0

def isEmpty (s : Snapshot) : Bool := s.size == 0

/-- Whether a storage class is marked as the one to be used by default. -/
def isDefaultClass (c : StorageClass) : Bool :=
  c.metadata.annotations.get? "storageclass.kubernetes.io/is-default-class" == some "true"

def defaultStorageClasses (s : Snapshot) : List StorageClass := s.storageClasses.filter isDefaultClass

/-- `s` without the objects that live in namespaces outside of `sc`. -/
def narrow (s : Snapshot) (sc : Scope) : Snapshot :=
  build
    (fun k => if k.isNamespaced then (s.items k).filter fun o => sc.covers (k.metadata o).ns
      else s.items k)
    s.systemNamespace sc

theorem items_narrow (s : Snapshot) (sc : Scope) (k : Kind) :
    (s.narrow sc).items k =
      if k.isNamespaced then (s.items k).filter fun o => sc.covers (k.metadata o).ns
      else s.items k := by
  simp [narrow]

@[simp] theorem scope_narrow (s : Snapshot) (sc : Scope) : (s.narrow sc).scope = sc := rfl

end Snapshot

end ClusterAudit
