/-
Diagnostics as JSON. A missing namespace, an empty map of annotations and an
empty list of owners are left out.
-/
import ClusterAudit.Diagnostic

namespace ClusterAudit

def StringMap.encode (m : StringMap) : Json := .obj (m.entries.map fun (k, v) => (k, .str v))

namespace Subject

def encode (s : Subject) : Json :=
  .obj <|
    [("name", .str s.name)] ++
    (s.ns.map fun ns => ("namespace", Json.str ns)).toList ++
    (if s.annotations.isEmpty then [] else [("annotations", s.annotations.encode)])

def decode? (j : Json) : Option Subject := do
  let fields : Json.Fields ← j.record? ["name", "namespace", "annotations"] 2
  return {
    name := ← fields.required Json.string? "name"
    ns := ← fields.optional Json.string? "namespace"
    annotations := ← fields.presentOr Json.stringMap? {} "annotations" }

end Subject

namespace Diagnostic

def encode (d : Diagnostic) : Json :=
  .obj <|
    [("check", .str d.check), ("severity", d.severity.encode), ("message", .str d.message),
     ("kind", d.kind.encode), ("object", d.subject.encode)] ++
    (if d.owners.isEmpty then [] else [("owners", .arr (d.owners.map Owner.encode))])

def decode? (j : Json) : Option Diagnostic := do
  let fields : Json.Fields ←
    j.record? ["check", "severity", "message", "kind", "object", "owners"] 5
  return {
    check := ← fields.required Json.string? "check"
    severity := ← fields.required Severity.decode? "severity"
    message := ← fields.required Json.string? "message"
    kind := ← fields.required Kind.decode? "kind"
    subject := ← fields.required Subject.decode? "object"
    owners := ← fields.presentOr (Json.list? Owner.decode?) [] "owners" }

end Diagnostic

end ClusterAudit
