/-
From settings to a client: which kubeconfig to read and which of its contexts
to use. No request is sent yet.

All that is read of connections, kubeconfigs in YAML with their addresses,
certificates and dates, is read for this step. It decides whether there is a
client to fetch with, which server that client asks, and which error is shown if
there is none. What is proved of fetching and of commands takes the client and
the answers to it as given, so it holds whatever is decided here.
-/
import ClusterAudit.Cluster.Fetch
import ClusterAudit.Connection.Client
import ClusterAudit.Connection.Settings

namespace ClusterAudit.Connection

open Cluster (Client ClusterError)

/-- The kubeconfig that the settings name. -/
def Files.chosen (files : Files) (s : Settings) : Except KubeconfigError Kubeconfig :=
  match s.kubeconfig with
  | some path => files.load path
  | none => files.loadUsual

/-- The cluster and the user that the settings choose. -/
def find (files : Files) (s : Settings) : Except KubeconfigError (Endpoint × User × Target) := do
  let (endpoint, user) ← (← files.chosen s).select s.context
  return (endpoint, user, ← Target.ofEndpoint files endpoint user)

/-- The client that the settings describe, at the time `now`. If they name neither a file nor a
context, a fault of the kubeconfig means that no cluster could be found. -/
def connect (files : Files) (now : Int) (s : Settings) : Except ClusterError Client :=
  match find files s with
  | .error e =>
    if s.kubeconfig.isNone && s.context.isNone then .error (.nowhere e) else .error (.kubeconfig e)
  | .ok (endpoint, user, target) =>
    match checkClient files now endpoint user target with
    | .ok () => .ok { server := target.server.text, timeout := s.timeout }
    | .error e => .error (.client e)

end ClusterAudit.Connection
