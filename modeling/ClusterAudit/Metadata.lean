/-
What every cluster object carries: its name and namespace, its labels and
annotations, and the objects that own it.
-/
import ClusterAudit.Json

namespace ClusterAudit

/-- A reference from an object to one that owns it. -/
structure Owner where
  apiVersion : String := ""
  blockOwnerDeletion : Option Bool := none
  controller : Option Bool := none
  kind : String := ""
  name : String := ""
  uid : String := ""
  deriving DecidableEq

namespace Owner

def encode (o : Owner) : Json :=
  .obj <|
    [("apiVersion", .str o.apiVersion)] ++
    (o.blockOwnerDeletion.map fun b => ("blockOwnerDeletion", Json.bool b)).toList ++
    (o.controller.map fun b => ("controller", Json.bool b)).toList ++
    [("kind", .str o.kind), ("name", .str o.name), ("uid", .str o.uid)]

def decode? (j : Json) : Option Owner := do
  let fields : Json.Fields ← j.object?
  return {
    apiVersion := ← fields.defaulted Json.string? "" "apiVersion"
    blockOwnerDeletion := ← fields.optional Json.bool? "blockOwnerDeletion"
    controller := ← fields.optional Json.bool? "controller"
    kind := ← fields.defaulted Json.string? "" "kind"
    name := ← fields.defaulted Json.string? "" "name"
    uid := ← fields.defaulted Json.string? "" "uid" }

end Owner

structure Metadata where
  name? : Option String := none
  ns : Option String := none
  labels : Option StringMap := none
  annotations : StringMap := {}
  owners : List Owner := []
  deriving DecidableEq

namespace Metadata

instance : Inhabited Metadata := ⟨{}⟩

/-- The name; empty if the object has none. -/
def name (m : Metadata) : String := m.name?.getD ""

/-- The namespace, for looking objects up: one without a namespace counts as
being in the empty one. -/
def home (m : Metadata) : String := m.ns.getD ""

/-- Namespace and name, by which objects of one kind are told apart. -/
def key (m : Metadata) : String × String := (m.home, m.name)

def decode? (j : Json) : Option Metadata := do
  let fields : Json.Fields ← j.object?
  return {
    name? := ← fields.optional Json.string? "name"
    ns := ← fields.optional Json.string? "namespace"
    labels := ← fields.optional Json.stringMap? "labels"
    annotations := ← fields.defaulted Json.stringMap? {} "annotations"
    owners := ← fields.defaulted (Json.list? Owner.decode?) [] "ownerReferences" }

end Metadata

end ClusterAudit
