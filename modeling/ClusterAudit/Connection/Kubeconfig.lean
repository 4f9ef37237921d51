/-
Kubeconfigs: named clusters, named users, named contexts that each point at a
cluster and a user, and the name of the context to use if none is asked for.
Several of them can be merged, and then the first to say something counts.
-/
import ClusterAudit.Connection.Path
import ClusterAudit.Connection.Pem
import ClusterAudit.Connection.Uri
import ClusterAudit.StringMap
import ClusterAudit.Text.Quoted

namespace ClusterAudit.Connection

/-- Why no cluster could be found by means of a kubeconfig. -/
inductive KubeconfigError where
  | unreadable (path : String) (error : FileError)
  /-- The file is no YAML. -/
  | malformed (detail : String)
  /-- The file is YAML, but no kubeconfig. -/
  | unsuitable (detail : String)
  /-- Kubeconfigs that call themselves something else cannot be merged. -/
  | differentKinds
  | differentVersions
  | noCurrentContext
  | unknownContext (name : String)
  | unknownCluster (name : String)
  | noServer
  | badServer (error : UriError)
  /-- The certificates to trust cannot be had. -/
  | noAuthority
  | badCertificates (error : PemError)
  | badProxy (error : UriError)
  deriving DecidableEq

namespace KubeconfigError

def message : KubeconfigError → String
  | unreadable path e =>
    "failed to read kubeconfig from '" ++ Text.quoted path ++ "': " ++ e.message
  | malformed detail => "failed to parse kubeconfig YAML: " ++ detail
  | unsuitable detail => "the structure of the parsed kubeconfig is invalid: " ++ detail
  | differentKinds => "kubeconfigs with mismatching kind cannot be merged"
  | differentVersions => "kubeconfigs with mismatching api version cannot be merged"
  | noCurrentContext => "failed to determine current context"
  | unknownContext name => "failed to load current context: " ++ name
  | unknownCluster name => "failed to load the cluster of context: " ++ name
  | noServer => "cluster url is missing on selected cluster"
  | badServer e => "failed to parse cluster url: " ++ e.message
  | noAuthority => "failed to load certificate authority"
  | badCertificates e => "failed to parse PEM-encoded certificates: " ++ e.message
  | badProxy e => "failed to parse proxy url: " ++ e.message

end KubeconfigError

/-- A name, and what it stands for if that is said. -/
structure Named (α : Type) where
  name : String
  value : Option α

namespace Named

variable {α : Type}

/-- What the first entry of the name stands for. -/
def find? (entries : List (Named α)) (name : String) : Option α :=
  (entries.find? (·.name == name)).bind (·.value)

/-- `a`, and after it those of `b` that have names of their own. -/
def merge (a b : List (Named α)) : List (Named α) :=
  a ++ b.filter fun e => !a.any (·.name == e.name)

def map (f : α → α) (e : Named α) : Named α := { e with value := e.value.map f }

end Named

/-- Certificates or keys: in base 64 on the spot, which counts, or in a file. -/
structure Material where
  data : Option String := none
  path : Option String := none

/-- How to reach the API server of a cluster. -/
structure Endpoint where
  server : Option String := none
  /-- The certificates to trust. -/
  authority : Material := {}
  proxy : Option String := none
  /-- The name the server has to show. -/
  serverName : Option String := none

/-- One of the services that give out tokens, and what it needs to know. -/
structure Provider where
  name : String
  config : StringMap := {}

/-- A program that gives out credentials. -/
structure Plugin where
  command : Option String := none
  /-- Whether it is told about the cluster. -/
  needsCluster : Bool := false

/-- How to show who one is. -/
structure User where
  username : Option String := none
  password : Option String := none
  token : Option String := none
  tokenPath : Option String := none
  certificate : Material := {}
  key : Material := {}
  /-- Who to act as. -/
  actsAs : Option String := none
  actsAsGroups : List String := []
  provider : Option Provider := none
  plugin : Option Plugin := none

structure Context where
  cluster : String
  user : Option String := none

structure Kubeconfig where
  kind : Option String := none
  version : Option String := none
  clusters : List (Named Endpoint) := []
  users : List (Named User) := []
  contexts : List (Named Context) := []
  currentContext : Option String := none

namespace Kubeconfig

/-- Whether two statements contradict each other. -/
def disagree (a b : Option String) : Bool := a.isSome && b.isSome && a != b

def merge (a b : Kubeconfig) : Except KubeconfigError Kubeconfig :=
  if disagree a.kind b.kind then .error .differentKinds
  else if disagree a.version b.version then .error .differentVersions
  else .ok {
    kind := a.kind <|> b.kind
    version := a.version <|> b.version
    clusters := Named.merge a.clusters b.clusters
    users := Named.merge a.users b.users
    contexts := Named.merge a.contexts b.contexts
    currentContext := a.currentContext <|> b.currentContext }

/-- Cluster and user of a context, or of the current one if none is given. A
user that is not there has no credentials. -/
def select (k : Kubeconfig) (context : Option String) : Except KubeconfigError (Endpoint × User) := do
  let some name := context <|> k.currentContext | throw .noCurrentContext
  let some context := Named.find? k.contexts name | throw (.unknownContext name)
  let some endpoint := Named.find? k.clusters context.cluster | throw (.unknownCluster context.cluster)
  return (endpoint, (context.user.bind (Named.find? k.users)).getD {})

/-! ## Paths of other files -/

def Material.locatedIn (dir : String) (m : Material) : Material :=
  { m with path := m.path.map (Path.under dir) }

/-- The kubeconfig with all paths relative to the directory it is in. -/
def locatedIn (dir : String) (k : Kubeconfig) : Kubeconfig where
  kind := k.kind
  version := k.version
  clusters := k.clusters.map <| Named.map fun e =>
    { e with authority := Material.locatedIn dir e.authority }
  users := k.users.map <| Named.map fun u =>
    { u with
      tokenPath := u.tokenPath.map (Path.under dir)
      certificate := Material.locatedIn dir u.certificate
      key := Material.locatedIn dir u.key }
  contexts := k.contexts
  currentContext := k.currentContext

end Kubeconfig

end ClusterAudit.Connection
