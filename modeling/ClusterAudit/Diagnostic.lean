/-
One finding of one check. It holds copies of all that identifies the object it
is about, so it stands by itself once the snapshot is gone.
-/
import ClusterAudit.Kind
import ClusterAudit.Metadata
import ClusterAudit.Severity

namespace ClusterAudit

/-- The object that a diagnostic is about. -/
structure Subject where
  name : String
  /-- Missing for objects outside of namespaces. -/
  ns : Option String := none
  annotations : StringMap := {}
  deriving DecidableEq

namespace Subject

def ofMetadata (m : Metadata) : Subject := ⟨m.name, m.ns, m.annotations⟩

end Subject

structure Diagnostic where
  check : String
  severity : Severity
  message : String
  kind : Kind
  subject : Subject
  owners : List Owner := []
  deriving DecidableEq

namespace Diagnostic

/-- A diagnostic about the object with the metadata `m`, its owners included. -/
def about (check : String) (severity : Severity) (kind : Kind) (m : Metadata) (message : String) :
    Diagnostic :=
  ⟨check, severity, message, kind, .ofMetadata m, m.owners⟩

/-- The kind and name of the object, after its namespace if it has one. -/
def location (d : Diagnostic) : String :=
  (match d.subject.ns with
    | some ns => ns ++ "/"
    | none => "") ++ d.kind.name ++ "/" ++ d.subject.name

def line (d : Diagnostic) : String :=
  "[" ++ d.severity.name ++ "] " ++ d.location ++ ": " ++ d.message

/-- Namespace, object and check. A missing namespace is the empty list, which
comes before any other. -/
def sortKey (d : Diagnostic) : List (List String) :=
  [d.subject.ns.toList, [d.subject.name], [d.check]]

/-- Whether one key is before another, place by place. -/
def keyBefore (a b : List (List String)) : Bool :=
  a.lex b fun x y => x.lex y fun s t => decide (s < t)

/-- Whether `a` may stand before `b` in a sorted report. -/
def precedes (a b : Diagnostic) : Bool := !keyBefore b.sortKey a.sortKey

end Diagnostic

end ClusterAudit
