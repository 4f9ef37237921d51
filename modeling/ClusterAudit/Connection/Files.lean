/-
The files that a connection may need: kubeconfigs, and the certificates, keys
and tokens that these name.
-/
import ClusterAudit.Connection.Document
import ClusterAudit.Text.Base64

namespace ClusterAudit.Connection

structure Files where
  /-- The content of a file, or why it cannot be read. -/
  read : String → Except FileError String
  /-- The kubeconfigs to take if none is named. -/
  usual : List String := []

namespace Files

/-- The files that are listed with their contents, and no others. -/
def ofList (contents : List (String × String)) (usual : List String) : Files where
  read path :=
    match contents.lookup path with
    | some text => .ok text
    | none => .error (Path.absence path)
  usual := usual

/-- A text without the byte order mark that may stand before it. -/
def withoutMark (text : String) : String :=
  match text.toList with
  | '\ufeff' :: cs => String.ofList cs
  | _ => text

def load (files : Files) (path : String) : Except KubeconfigError Kubeconfig := do
  let text ← (files.read path).mapError (.unreadable path)
  return (← Kubeconfig.parse (withoutMark text)).locatedIn (Path.directory path)

def loadUsual (files : Files) : Except KubeconfigError Kubeconfig :=
  files.usual.foldlM (fun k path => do k.merge (← files.load path)) {}

end Files

namespace Material

def isGiven (m : Material) : Bool := m.data.isSome || m.path.isSome

/-- The characters of certificates or keys; only the ones of ASCII matter. -/
def read? (files : Files) (m : Material) : Option (List Char) :=
  match m.data, m.path with
  | some data, _ =>
    (Text.Base64.decode data.toList).toOption.map fun bytes => bytes.map fun b => Char.ofNat b.toNat
  | none, some path => (files.read path).toOption.map String.toList
  | none, none => none

end Material

end ClusterAudit.Connection
