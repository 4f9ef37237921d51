/-
The ways in which a run, or setting one up, can fail.
-/
namespace ClusterAudit

inductive Failure where
  | emptyCheckName
  | duplicateCheck (name : String)
  | checkNotFound (name : String)
  | conflictingGroups
  | conflictingChecks
  | conflictingNamespaces
  | noChecksToRun
  /-- No snapshot could be had. -/
  | fetch (message : String)
  /-- A check gave up or crashed. -/
  | checkFailed (check message : String)
  | internal (message : String)
  deriving DecidableEq, Repr

namespace Failure

def message : Failure → String
  | emptyCheckName => "check name cannot be empty"
  | duplicateCheck name => "check already exists: " ++ name
  | checkNotFound name => "check not found: " ++ name
  | conflictingGroups => "cannot specify both include and exclude group conditions"
  | conflictingChecks => "cannot specify both include and exclude check conditions"
  | conflictingNamespaces => "cannot specify both include and exclude namespace conditions"
  | noChecksToRun =>
    "no checks to run. Are you sure that you provided the right names for groups and checks?"
  | fetch message => "failed to fetch cluster objects: " ++ message
  | checkFailed check message => "check " ++ check ++ " failed: " ++ message
  | internal message => "internal error: " ++ message

/-- Whether the fault lies in what the user asked for, not in the cluster or in
a check. -/
def isConfigError : Failure → Bool
  | fetch _ | checkFailed _ _ | internal _ => false
  | _ => true

/-- The check that failed. -/
def check? : Failure → Option String
  | checkFailed check _ => some check
  | _ => none

end Failure

end ClusterAudit
