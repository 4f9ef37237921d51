/-
The rule that users keep their objects out of the default namespace. What the
cluster itself puts there is let off, each kind by a mark of its own.
-/
import ClusterAudit.Check

namespace ClusterAudit.Checks

/-- Whether a secret is taken for a token of the default service account: any
token that says it is one, or that has the name of one. -/
def isDefaultToken (s : Secret) : Bool :=
  s.type == some "kubernetes.io/service-account-token" &&
  (s.metadata.annotations.get? "kubernetes.io/service-account.name" == some "default" ||
    "default-token-".toList.isPrefixOf s.metadata.name.toList)

/-- The objects of one kind in the default namespace, but for those that are
let off. -/
def inDefault (s : Snapshot) (k : Kind) (isExempt : k.Item → Bool) : List Finding :=
  s.findings k fun o =>
    if (k.metadata o).ns == some "default" && !isExempt o then ["Avoid using the default namespace"]
    else []

def defaultNamespace : Rule where
  name := "default-namespace"
  groups := ["basic"]
  description := "Checks for user objects created in the default namespace"
  severity := .warning
  kinds := [.pod, .podTemplate, .persistentVolumeClaim, .configMap, .service, .secret, .serviceAccount]
  findings s :=
    inDefault s .pod (fun _ => false) ++
    inDefault s .podTemplate (fun _ => false) ++
    inDefault s .persistentVolumeClaim (fun _ => false) ++
    inDefault s .configMap (fun (c : ConfigMap) => c.metadata.name == "kube-root-ca.crt") ++
    inDefault s .service (fun (x : Service) => x.metadata.name == "kubernetes") ++
    inDefault s .secret isDefaultToken ++
    inDefault s .serviceAccount (fun (a : ServiceAccount) => a.metadata.name == "default")

end ClusterAudit.Checks
