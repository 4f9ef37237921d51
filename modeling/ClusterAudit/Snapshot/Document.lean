/-
A snapshot as one JSON document: an object with a field for each collection,
one for the system namespace and one for the scope. Any of them may be
missing.
-/
import ClusterAudit.Object.Decode
import ClusterAudit.Snapshot

namespace ClusterAudit

/-- Reads one object of a kind. -/
def Kind.decodeItem? : (k : Kind) → Json → Option k.Item
  | .pod => Pod.decode?
  | .podTemplate => PodTemplate.decode?
  | .persistentVolumeClaim => PersistentVolumeClaim.decode?
  | .persistentVolume => PersistentVolume.decode?
  | .configMap => ConfigMap.decode?
  | .service => Service.decode?
  | .secret => Secret.decode?
  | .serviceAccount => ServiceAccount.decode?
  | .node => Node.decode?
  | .namespaces => Namespace.decode?
  | .resourceQuota => ResourceQuota.decode?
  | .limitRange => LimitRange.decode?
  | .storageClass => StorageClass.decode?
  | .cronJob => CronJob.decode?
  | .volumeSnapshot => VolumeSnapshot.decode?
  | .validatingWebhookConfiguration => ValidatingConfiguration.decode?
  | .mutatingWebhookConfiguration => MutatingConfiguration.decode?

namespace Snapshot

/-- What is wrong with a document. -/
inductive DocumentError where
  /-- A field that is unknown, or whose value is not of its type. -/
  | malformed (field : String)
  | refused (failure : Failure)

/-- `s` with other objects of the kind `k`. -/
def withItems (s : Snapshot) : (k : Kind) → List k.Item → Snapshot
  | .pod, xs => { s with pods := xs }
  | .podTemplate, xs => { s with podTemplates := xs }
  | .persistentVolumeClaim, xs => { s with persistentVolumeClaims := xs }
  | .persistentVolume, xs => { s with persistentVolumes := xs }
  | .configMap, xs => { s with configMaps := xs }
  | .service, xs => { s with services := xs }
  | .secret, xs => { s with secrets := xs }
  | .serviceAccount, xs => { s with serviceAccounts := xs }
  | .node, xs => { s with nodes := xs }
  | .namespaces, xs => { s with namespaces := xs }
  | .resourceQuota, xs => { s with resourceQuotas := xs }
  | .limitRange, xs => { s with limitRanges := xs }
  | .storageClass, xs => { s with storageClasses := xs }
  | .cronJob, xs => { s with cronJobs := xs }
  | .volumeSnapshot, xs => { s with volumeSnapshots := xs }
  | .validatingWebhookConfiguration, xs => { s with validatingWebhooks := xs }
  | .mutatingWebhookConfiguration, xs => { s with mutatingWebhooks := xs }

/-- The lists of a scope, under no other names than these two. Either may be
missing. -/
def scopeLists? (j : Json) : Option (List String × List String) := do
  let fields : Json.Fields ← j.object?
  if fields.all fun (name, _) => name == "include" || name == "exclude" then
    return (← fields.presentOr Json.strings? [] "include", ← fields.presentOr Json.strings? [] "exclude")
  else none

/-- Takes one field of a document over into `s`. -/
def readField (s : Snapshot) (name : String) (j : Json) : Except DocumentError Snapshot :=
  if name = "systemNamespace" then
    match j with
    | .null => .ok { s with systemNamespace := none }
    | j =>
      match Namespace.decode? j with
      | some n => .ok { s with systemNamespace := some n }
      | none => .error (.malformed name)
  else if name = "namespaceFilter" then
    match scopeLists? j with
    | none => .error (.malformed name)
    | some (included, excluded) =>
      match Scope.ofLists included excluded with
      | .ok scope => .ok { s with scope := scope }
      | .error e => .error (.refused e)
  else
    match Kind.ofCollection? name with
    | none => .error (.malformed name)
    | some k =>
      match Json.list? k.decodeItem? j with
      | some xs => .ok (s.withItems k xs)
      | none => .error (.malformed name)

/-- The snapshot that a document describes. The fields are read in the order of
their names, and the first fault counts. No document is an empty snapshot. -/
def ofDocument (j : Json) : Except DocumentError Snapshot :=
  match j with
  | .null => .ok {}
  | .obj fields =>
    (fields.mergeSort fun a b => decide (a.1 ≤ b.1)).foldlM (fun s (name, j) => s.readField name j) {}
  | _ => .error (.malformed "objects")

end Snapshot

end ClusterAudit
