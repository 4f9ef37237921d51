/-
The ways in which a cluster can fail to be reached or to answer.
-/
import ClusterAudit.Connection.Client
import ClusterAudit.Duration
import ClusterAudit.Failure

namespace ClusterAudit.Cluster

/-- An error as the API server reports it. -/
structure ApiError where
  status : String
  message : String := ""
  reason : String := ""
  code : Nat
  deriving DecidableEq

namespace ApiError

/-- What the error says, and then all of it in detail. -/
def text (e : ApiError) : String :=
  "ApiError: " ++ e.message ++ ": " ++ e.reason ++ " (ErrorResponse \x7b status: " ++
    Text.quoted e.status ++ ", message: " ++ Text.quoted e.message ++ ", reason: " ++
    Text.quoted e.reason ++ ", code: " ++ toString e.code ++ " \x7d)"

end ApiError

inductive ClusterError where
  | api (error : ApiError)
  /-- The server answered, but not with what was asked for. -/
  | unintelligible (detail : String)
  | kubeconfig (error : Connection.KubeconfigError)
  /-- Nothing was said about where the cluster is, and no guess was right. -/
  | nowhere (error : Connection.KubeconfigError)
  /-- The cluster is known, but nothing can be sent to it. -/
  | client (error : Connection.ClientError)
  | timeout (limit : Duration)
  deriving DecidableEq

namespace ClusterError

def message : ClusterError → String
  | api e => "Kubernetes API error: " ++ e.text
  | unintelligible detail => "Kubernetes API error: Error deserializing response: " ++ detail
  | kubeconfig e => "Failed to load kubeconfig: " ++ e.message
  | nowhere e => "Failed to infer cluster configuration: " ++ e.message
  | client e => "Kubernetes API error: " ++ e.message
  | timeout limit => "Timed out fetching cluster objects after " ++ limit.text

/-- Whether the fault lies on this side and not in the cluster. -/
def isConfigError : ClusterError → Bool
  | kubeconfig _ | nowhere _ => true
  | _ => false

/-- The number by which the API server tells the error. -/
def statusCode : ClusterError → Option Nat
  | api e => some e.code
  | _ => none

def failure (e : ClusterError) : Failure := .fetch e.message

end ClusterError

end ClusterAudit.Cluster
