/-
Checks at work side by side, each with a worker of its own. The workers may
finish in any order, and each hands in all of its diagnostics in one step. A
`Schedule` says in which order they finish, so whatever holds for every
schedule does not hang on timing.
-/
import ClusterAudit.Check
import ClusterAudit.Report

namespace ClusterAudit

inductive Worker where
  | running (check : Check)
  /-- Nothing remains of a check that went well but what it handed in. -/
  | finished (failure : Option Failure)

namespace Worker

def failure? : Worker → Option Failure
  | .running _ => none
  | .finished failure => failure

end Worker

/-- The workers, in the order of their checks, and the diagnostics that were
handed in. -/
structure Pool where
  workers : List Worker
  collected : List Diagnostic := []

namespace Pool

def start (checks : List Check) : Pool := ⟨checks.map .running, []⟩

/-- The pool after its worker number `i` has finished its check of `s`. -/
def finish (s : Snapshot) (p : Pool) (i : Nat) : Pool :=
  match p.workers[i]? with
  | some (.running c) =>
    let outcome := c.run s
    { workers := p.workers.set i (.finished (outcome.complaint?.map (.checkFailed c.name)))
      collected := p.collected ++ outcome.diagnostics }
  | _ => p

/-- What went wrong with the first check that did not go well, first in the
order of the checks and not in that of time. -/
def failure? (p : Pool) : Option Failure := p.workers.findSome? Worker.failure?

end Pool

/-- For any number of workers, the order in which they finish. -/
structure Schedule where
  order : Nat → List Nat
  perm : ∀ n, (order n).Perm (List.range n)

namespace Schedule

/-- One after the other. -/
def inTurn : Schedule := ⟨List.range, fun _ => .refl _⟩

instance : Inhabited Schedule := ⟨inTurn⟩

/-- The pool of `checks` once all of them are through with `s`. -/
def play (t : Schedule) (s : Snapshot) (checks : List Check) : Pool :=
  (t.order checks.length).foldl (Pool.finish s) (.start checks)

end Schedule

end ClusterAudit
