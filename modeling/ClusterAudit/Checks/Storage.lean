/-
Rules about storage classes, the claims that name them, and volume snapshots.
-/
import ClusterAudit.Check

namespace ClusterAudit.Checks

/-- If there are several default classes, each of them is reported, with the
names of all. -/
def defaultStorageClass : Rule where
  name := "default-storage-class"
  groups := ["storage"]
  description := "Checks that at most one storage class is marked as default"
  severity := .warning
  kinds := [.storageClass]
  findings s :=
    let names := s.defaultStorageClasses.map (·.metadata.name)
    s.findings .storageClass fun c =>
      if Snapshot.isDefaultClass c && 1 < names.length then
        ["Multiple default storage classes found: " ++ ", ".intercalate names]
      else []

/-- A claim that asks for the class of the empty name asks for none. -/
def missingStorageClass : Rule where
  name := "missing-storage-class"
  groups := ["storage"]
  description := "Checks for persistent volume claims referencing a missing storage class"
  severity := .error
  kinds := [.persistentVolumeClaim]
  findings s :=
    let names := s.storageClasses.map (·.metadata.name)
    s.findings .persistentVolumeClaim fun c =>
      match c.storageClass with
      | none => []
      | some name =>
        if name.isEmpty || names.contains name then []
        else ["Storage class '" ++ name ++ "' does not exist"]

def volumeSnapshotValidity : Rule where
  name := "volume-snapshot-validity"
  groups := ["storage"]
  description := "Checks for volume snapshots without a source or with an error status"
  severity := .error
  kinds := [.volumeSnapshot]
  findings s := s.findings .volumeSnapshot fun v =>
    (if v.source.claim.isNone && v.source.content.isNone then ["Volume snapshot has no source"]
      else []) ++
    match v.status.bind (·.error) with
    | some e => ["Volume snapshot is in error state: " ++ e.message.getD "unknown error"]
    | none => []

end ClusterAudit.Checks
