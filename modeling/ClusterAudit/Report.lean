/-
The outcome of a run that went well: diagnostics, in whatever order they came
in, and the two forms in which they are printed.
-/
import ClusterAudit.Diagnostic.Json
import ClusterAudit.Suppression

namespace ClusterAudit

/-- What a report leaves out. A diagnostic that its object suppresses never
gets in. -/
structure Screen where
  /-- The one severity that gets in; all of them if it is missing. -/
  severity : Option Severity := none
  deriving DecidableEq

namespace Screen

def passes (s : Screen) (d : Diagnostic) : Bool :=
  !Suppression.suppresses d.subject d.check && s.severity.all (d.severity == ·)

end Screen

structure Report where
  diagnostics : List Diagnostic := []
  deriving DecidableEq

namespace Report

/-- The report of those of `ds` that pass. -/
def screened (s : Screen) (ds : List Diagnostic) : Report := ⟨ds.filter s.passes⟩

/-- The diagnostics by namespace, object and check. Those that agree in all
three keep the order they came in. -/
def sorted (r : Report) : Report := ⟨r.diagnostics.mergeSort Diagnostic.precedes⟩

def count (r : Report) (s : Severity) : Nat := r.diagnostics.countP (·.severity == s)

def hasErrors (r : Report) : Bool := r.diagnostics.any (·.severity == .error)

/-- How many diagnostics of each severity there are. -/
def summary (r : Report) : String :=
  ", ".intercalate (Severity.all.map fun s => toString (r.count s) ++ " " ++ s.name ++ "s")

/-- A line for each diagnostic, and the summary. -/
def text (r : Report) : String :=
  String.join ((r.diagnostics.map Diagnostic.line ++ [r.summary]).map (· ++ "\n"))

def encode (r : Report) : Json := .obj [("diagnostics", .arr (r.diagnostics.map Diagnostic.encode))]

/-- Indented JSON. -/
def document (r : Report) : String := r.encode.pretty ++ "\n"

end Report

end ClusterAudit
