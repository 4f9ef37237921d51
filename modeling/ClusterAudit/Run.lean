/-
A run: get a snapshot, narrow it to the namespaces in question, let the
selected checks look at it, and report what passes the screen. It succeeds as a
whole or not at all: once a check fails, nothing of the others is reported.
-/
import ClusterAudit.Selection
import ClusterAudit.Workers

namespace ClusterAudit.Run

/-- Lets `checks` look at a snapshot. -/
def inspect (t : Schedule) (s : Snapshot) (checks : List Check) (screen : Screen) :
    Except Failure Report :=
  if checks.isEmpty then .error .noChecksToRun
  else
    let pool := t.play s checks
    match pool.failure? with
    | some e => .error e
    | none => .ok (.screened screen pool.collected)

/-- A whole run. That no checks are selected is noticed only once there is a
snapshot. -/
def perform {m : Type → Type} [Monad m] (t : Schedule)
    (fetch : Scope → m (Except Failure Snapshot)) (registry : Registry) (selection : Selection)
    (screen : Screen) (scope : Scope) : m (Except Failure Report) := do
  match ← fetch scope with
  | .error e => return .error e
  | .ok s => return inspect t (s.narrow scope) (selection.resolve registry) screen

end ClusterAudit.Run
