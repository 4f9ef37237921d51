/-
Carrying out commands. The text that a command prints and how it ends are two
things, so that it can be said that a command that fails prints nothing.
-/
import ClusterAudit.CommandLine.Arguments
import ClusterAudit.Listing
import ClusterAudit.Run

namespace ClusterAudit.CommandLine

/-- A failure, and what was being done when it came. -/
structure Complaint where
  doing : String
  failure : Failure
  deriving DecidableEq

namespace Complaint

/-- The messages, from the outside in. -/
def chain (c : Complaint) : List String := [c.doing, c.failure.message]

end Complaint

structure Result where
  text : String := ""
  /-- Whether errors were found. -/
  ending : Except Complaint Bool

namespace RunRequest

/-- Which checks are meant, in which namespaces. -/
def filters (q : RunRequest) : Except Complaint (Selection × Scope) := do
  let selection ←
    (Selection.ofLists q.groups q.ignoredGroups q.checks q.ignoredChecks).mapError
      (⟨"invalid check selection", ·⟩)
  let scope ←
    (Scope.ofLists q.namespaces q.ignoredNamespaces).mapError (⟨"invalid namespace selection", ·⟩)
  return (selection, scope)

/-- The sorted report as it is printed. -/
def render (q : RunRequest) (r : Report) : String :=
  match q.format with
  | .text => r.sorted.text
  | .json => r.sorted.document

/-- Nothing is fetched if the request contradicts itself. -/
def execute {m : Type → Type} [Monad m] (t : Schedule)
    (fetch : Scope → m (Except Failure Snapshot)) (registry : Registry) (q : RunRequest) :
    m Result := do
  match q.filters with
  | .error complaint => return { ending := .error complaint }
  | .ok (selection, scope) =>
    match ← Run.perform t fetch registry selection { severity := q.level } scope with
    | .error e => return { ending := .error ⟨"lint run failed", e⟩ }
    | .ok report => return { text := q.render report, ending := .ok report.hasErrors }

end RunRequest

namespace Command

/-- Only a run fetches anything. -/
def execute {m : Type → Type} [Monad m] (t : Schedule)
    (fetch : Scope → m (Except Failure Snapshot)) (registry : Registry) : Command → m Result
  | .list names => return { text := Listing.checks (registry.listed names), ending := .ok false }
  | .groups => return { text := Listing.groups registry.groupNames, ending := .ok false }
  | .run request => request.execute t fetch registry

end Command

end ClusterAudit.CommandLine
