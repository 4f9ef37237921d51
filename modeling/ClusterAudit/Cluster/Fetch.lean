/-
Fetching a snapshot from an API server. All requests are sent at once. The
snapshot is there when every one of them has been answered well; the first to
fail, or the end of the time, is the end of the fetch.
-/
import ClusterAudit.Cluster.Error
import ClusterAudit.Snapshot

namespace ClusterAudit.Cluster

/-! ## Requests -/

inductive Request where
  /-- All objects of a kind, or those that a field selector picks. -/
  | list (k : Kind) (selector : Option String)
  | systemNamespace

namespace Request

abbrev Reply : Request → Type
  | .list k _ => List k.Item
  | .systemNamespace => Option Namespace

def path : Request → String
  | .list k _ => k.path
  | .systemNamespace => Kind.namespaces.path ++ "/" ++ Snapshot.systemNamespaceName

def selector : Request → Option String
  | .list _ selector => selector
  | .systemNamespace => none

/-- What there is where there is nothing. -/
def nothing : (r : Request) → r.Reply
  | .list _ _ => []
  | .systemNamespace => none

/-- Whether an error only says that there is nothing. Volume snapshots come
from an extension that the cluster need not have. -/
def saysNothing : Request → ClusterError → Bool
  | .list .volumeSnapshot _, .api e => e.code == 404
  | .systemNamespace, .api e => e.reason == "NotFound"
  | _, _ => false

/-- The list request for a kind in a scope. Only what lives in namespaces can
be picked by its namespace. -/
def ofKind (scope : Scope) (k : Kind) : Request :=
  .list k (if k.isNamespaced then scope.fieldSelector else none)

/-- All requests that make a snapshot. -/
def all (scope : Scope) : List Request := Kind.all.map (ofKind scope) ++ [.systemNamespace]

end Request

/-! ## Answers -/

/-- What comes of a request: content after some milliseconds, or nothing,
ever. -/
inductive Answer (α : Type) where
  | never
  | after (milliseconds : Nat) (content : Except ClusterError α)

namespace Answer

variable {α : Type}

/-- The answer without what a good one holds. -/
def ending : Answer α → Answer Unit
  | .never => .never
  | .after t content => .after t (content.map fun _ => ())

/-- The content; `default` if there is none. -/
def contentOr (default : α) : Answer α → α
  | .after _ (.ok a) => a
  | _ => default

/-- Whether the answer is there before the time is up; just at its end is early
enough. Without a limit there is time for all that ever comes. -/
def isInTime (limit : Option Duration) : Answer α → Bool
  | .never => false
  | .after t _ =>
    match limit with
    | none => true
    | some l => (Duration.ofMilliseconds t).nanoseconds ≤ l.nanoseconds

/-- The earlier of two failures with their times; of two at one time, the
first. -/
def earlier (a : Option (Nat × ClusterError)) (b : Answer Unit) : Option (Nat × ClusterError) :=
  match a, b with
  | none, .after t (.error e) => some (t, e)
  | some (t, e), .after t' (.error e') => if t' < t then some (t', e') else some (t, e)
  | a, _ => a

def earliestFailure? (answers : List (Answer Unit)) : Option ClusterError :=
  (answers.foldl earlier none).map (·.2)

/-- How a round of requests ends, all of them sent at once; `none` if it never
does. -/
def conclude (limit : Option Duration) (answers : List (Answer Unit)) :
    Option (Except ClusterError Unit) :=
  let arrived := answers.filter (isInTime limit)
  match earliestFailure? arrived with
  | some e => some (.error e)
  | none =>
    if arrived.length = answers.length then some (.ok ())
    else limit.map fun l => .error (.timeout l)

end Answer

/-! ## The fetch -/

/-- The API server, as an answer to every request. -/
abbrev Api := (r : Request) → Answer r.Reply

/-- The answer to a request, after an error that only says that there is
nothing has been taken for that. -/
def Api.ask (api : Api) (r : Request) : Answer r.Reply :=
  match api r with
  | .after t (.error e) => .after t (if r.saysNothing e then .ok r.nothing else .error e)
  | a => a

structure Client where
  /-- The address of the API server. -/
  server : String := ""
  /-- How long a whole fetch may take. -/
  timeout : Option Duration := none

namespace Client

/-- The snapshot of the objects in a scope, or what failed; `none` if the fetch
never ends. -/
def fetch (c : Client) (api : Api) (scope : Scope) : Option (Except ClusterError Snapshot) :=
  match Answer.conclude c.timeout ((Request.all scope).map fun r => (api.ask r).ending) with
  | none => none
  | some (.error e) => some (.error e)
  | some (.ok ()) =>
    some <| .ok <| .build
      (fun k => (api.ask (.ofKind scope k)).contentOr [])
      ((api.ask .systemNamespace).contentOr none)
      scope

/-- The same, for a run. -/
def fetchForRun (c : Client) (api : Api) (scope : Scope) : Option (Except Failure Snapshot) :=
  (c.fetch api scope).map fun result => result.mapError ClusterError.failure

/-- What the client is set to, in one line. -/
def describe (c : Client) : String :=
  "KubeFetcher \x7b timeout: " ++
    (match c.timeout with
      | none => "None"
      | some t => "Some(" ++ t.text ++ ")") ++
    ", .. \x7d"

end Client

end ClusterAudit.Cluster
