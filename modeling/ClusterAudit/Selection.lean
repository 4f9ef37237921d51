/-
Choosing the checks to run, by their groups and then by their names.
-/
import ClusterAudit.Choice
import ClusterAudit.Registry

namespace ClusterAudit

structure Selection where
  groups : Choice := .all
  checks : Choice := .all
  deriving DecidableEq

namespace Selection

/-- Every check there is. -/
def all : Selection := {}

/-- A contradiction on the groups is reported before one on the names. -/
def ofLists (includedGroups excludedGroups includedChecks excludedChecks : List String) :
    Except Failure Selection :=
  match Choice.ofLists? includedGroups excludedGroups with
  | none => .error .conflictingGroups
  | some groups =>
    match Choice.ofLists? includedChecks excludedChecks with
    | none => .error .conflictingChecks
    | some checks => .ok ⟨groups, checks⟩

/-- The checks that the choice of groups leaves. A check without groups is only
left if there is no such choice. -/
def byGroup (s : Selection) (r : Registry) : List Check :=
  if s.groups.isAll then r.checks
  else if s.groups.included.isEmpty then r.union (r.groupNames.filter s.groups.admits)
  else r.union s.groups.included

/-- The selected checks, each of them once. -/
def resolve (s : Selection) (r : Registry) : List Check :=
  (s.byGroup r).filter fun c => s.checks.admits c.name

end Selection

end ClusterAudit
