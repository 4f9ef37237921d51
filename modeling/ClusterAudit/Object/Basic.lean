/-
All other kinds of objects, as far as some check looks at them.
-/
import ClusterAudit.LabelSelector
import ClusterAudit.Metadata

namespace ClusterAudit

/-! ## Nodes -/

structure NodeCondition where
  type : String := ""
  status : String := ""

structure Node where
  metadata : Metadata := {}
  conditions : List NodeCondition := []

/-! ## Storage -/

structure PersistentVolume where
  metadata : Metadata := {}
  /-- Whether a claim is bound to the volume. -/
  isClaimed : Bool := false

structure PersistentVolumeClaim where
  metadata : Metadata := {}
  storageClass : Option String := none

structure StorageClass where
  metadata : Metadata := {}

structure SnapshotSource where
  claim : Option String := none
  content : Option String := none

structure SnapshotError where
  message : Option String := none
  time : Option String := none

structure SnapshotStatus where
  readyToUse : Option Bool := none
  boundContent : Option String := none
  restoreSize : Option String := none
  error : Option SnapshotError := none

structure VolumeSnapshot where
  metadata : Metadata := {}
  source : SnapshotSource := {}
  snapshotClass : Option String := none
  status : Option SnapshotStatus := none

/-! ## Services -/

structure ServiceSpec where
  type : Option String := none
  selector : StringMap := {}

structure Service where
  metadata : Metadata := {}
  spec : Option ServiceSpec := none

/-! ## Configuration and identity -/

structure ConfigMap where
  metadata : Metadata := {}

structure Secret where
  metadata : Metadata := {}
  type : Option String := none

/-- A reference to an object that may live in another namespace. -/
structure ObjectLink where
  name : Option String := none
  ns : Option String := none

structure ServiceAccount where
  metadata : Metadata := {}
  secrets : List ObjectLink := []
  imagePullSecrets : List String := []

/-! ## Namespaces and their limits -/

structure Namespace where
  metadata : Metadata := {}

structure ResourceQuota where
  metadata : Metadata := {}

structure LimitRange where
  metadata : Metadata := {}

/-! ## Jobs -/

structure CronJob where
  metadata : Metadata := {}
  concurrencyPolicy : Option String := none

/-! ## Admission webhooks -/

/-- The service behind a webhook. -/
structure WebhookService where
  ns : String := ""
  name : String := ""

structure WebhookRule where
  apiGroups : List String := []
  resources : List String := []

/-- A webhook that is asked whether requests may pass. -/
structure ValidatingWebhook where
  name : String := ""
  /-- Missing if the webhook is reached by an address outside of the cluster. -/
  service : Option WebhookService := none
  failurePolicy : Option String := none
  timeoutSeconds : Option Int := none
  namespaceSelector : Option LabelSelector := none
  objectSelector : Option LabelSelector := none
  rules : List WebhookRule := []

structure ValidatingConfiguration where
  metadata : Metadata := {}
  webhooks : List ValidatingWebhook := []

/-- A webhook that may change the objects in requests. -/
structure MutatingWebhook where
  name : String := ""
  /-- Missing if the webhook is reached by an address outside of the cluster. -/
  service : Option WebhookService := none
  failurePolicy : Option String := none
  timeoutSeconds : Option Int := none
  namespaceSelector : Option LabelSelector := none
  objectSelector : Option LabelSelector := none
  rules : List WebhookRule := []

structure MutatingConfiguration where
  metadata : Metadata := {}
  webhooks : List MutatingWebhook := []

end ClusterAudit
