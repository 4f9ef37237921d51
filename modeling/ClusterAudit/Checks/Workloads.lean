/-
Rules about the services in front of pods, the jobs that start them and the
nodes that run them.
-/
import ClusterAudit.Check
import ClusterAudit.Index

namespace ClusterAudit.Checks

/-! ## Services -/

/-- The pods by the namespace they are in. -/
def podsByHome (pods : List Pod) : Index Pod := .ofList (·.metadata.home) pods

/-- Whether some pod in the service's namespace has all the labels that the
service selects by. A pod without labels is not selected by anything. -/
def reachesPods (pods : Index Pod) (x : Service) (selector : StringMap) : Bool :=
  (pods.get x.metadata.home).any fun p => p.metadata.labels.any selector.selects

/-- A service without a selector has its endpoints set by hand, and one with an
external name has none. -/
def danglingService : Rule where
  name := "dangling-service"
  groups := ["basic"]
  description := "Checks for services whose selector matches no pods"
  severity := .warning
  kinds := [.service]
  findings s :=
    let pods := podsByHome s.pods
    s.findings .service fun x =>
      match x.spec with
      | none => []
      | some spec =>
        if spec.type == some "ExternalName" || spec.selector.isEmpty
          || reachesPods pods x spec.selector then []
        else ["Service selector matches no pods"]

/-! ## Jobs -/

def cronJobConcurrency : Rule where
  name := "cronjob-concurrency"
  groups := ["basic"]
  description := "Checks for cron jobs that allow concurrent runs"
  severity := .suggestion
  kinds := [.cronJob]
  findings s := s.findings .cronJob fun j =>
    if j.concurrencyPolicy.getD "Allow" == "Allow" then
      ["CronJob has concurrencyPolicy \x60Allow\x60. Prefer \x60Forbid\x60 or \x60Replace\x60"]
    else []

/-! ## Nodes -/

/-- Of several conditions on readiness the first counts. -/
def isReady (n : Node) : Bool :=
  match n.conditions.find? (·.type == "Ready") with
  | some condition => condition.status == "True"
  | none => false

def nodeNotReady : Rule where
  name := "node-not-ready"
  groups := ["nodes"]
  description := "Checks for nodes that are not in the Ready state"
  severity := .warning
  kinds := [.node]
  findings s := s.findings .node fun n =>
    if isReady n then [] else ["Node is not in Ready state"]

end ClusterAudit.Checks
