/-
A whole session, from the arguments to the exit code. The program opens no
files and no connections of its own: the kubeconfigs it may read and the
answers of the API server are handed to it in one document.
-/
import ClusterAudit.Checks.Catalog
import ClusterAudit.Cluster.Recording
import ClusterAudit.CommandLine.Execution
import ClusterAudit.Connection.Connect

namespace ClusterAudit.CommandLine

open Cluster (ClusterError Recording)
open Connection (Files)

namespace UsageError

def message : UsageError → String
  | unknownArgument => "error: unexpected argument"
  | unknownCommand => "error: unrecognized subcommand"
  | invalidValue => "error: a value is missing or not one of those allowed"
  | unreadableValue none => "error: invalid value"
  | unreadableValue (some cause) => "error: " ++ cause
  | repeated => "error: an argument cannot be used multiple times"
  | unwantedValue => "error: unexpected value for an argument that takes none"
  | help | nothingAsked => "Usage: clusterlint [OPTIONS] <list|groups|run>"
  | version => "clusterlint 0.1.0"
  | missingCommand => "error: a subcommand is required"

/-- Whether the user got what was asked for. -/
def isWish : UsageError → Bool
  | help | version => true
  | _ => false

end UsageError

/-- What lies outside of the program. -/
structure Surroundings where
  /-- Contents of files by their paths. -/
  files : List (String × String) := []
  /-- The seconds since 1970 began. -/
  now : Int := 0
  recording : Recording := []

namespace Surroundings

def decode? (j : Json) : Option Surroundings := do
  let fields : Json.Fields ← j.object?
  return {
    files := (← fields.defaulted Json.stringMap? {} "files").entries
    now := ← fields.defaulted Json.int? 0 "now"
    recording := ← fields.defaulted Recording.decode? [] "routes" }

/-- The files in which kubeconfigs are looked for: those that a variable lists
between colons, or else one in the home directory. -/
def usualPaths (env : StringMap) : List String :=
  let listed := ((env.get? "KUBECONFIG").map (Text.pieces ':')).getD [] |>.filter (!·.isEmpty)
  if listed.isEmpty then ((env.get? "HOME").map (· ++ "/.kube/config")).toList else listed

def kubeconfigs (x : Surroundings) (env : StringMap) : Files := .ofList x.files (usualPaths env)

end Surroundings

/-- What a session leaves behind. -/
structure Ending where
  out : String := ""
  err : String := ""
  code : UInt32 := 0

namespace Ending

def ofUsage (e : UsageError) : Ending :=
  if e.isWish then { out := e.message ++ "\n" } else { err := e.message ++ "\n", code := 2 }

def ofClusterError (e : ClusterError) : Ending := { err := "Error: " ++ e.message ++ "\n", code := 1 }

/-- A run that found errors ends like one that failed, but it has printed its
report. -/
def ofResult (r : Result) : Ending :=
  match r.ending with
  | .ok hasErrors => { out := r.text, code := if hasErrors then 1 else 0 }
  | .error complaint =>
    { out := r.text
      err := "Error: " ++ "\n\nCaused by:\n    ".intercalate complaint.chain ++ "\n"
      code := 1 }

end Ending

namespace Arguments

/-- Whether the command looks at anything outside of the program. -/
def looksOutside (a : Arguments) : Bool :=
  match a.command with
  | .run _ => true
  | _ => false

/-- Carries out the command with the checks of the catalog. -/
def perform (a : Arguments) (env : StringMap) (x : Surroundings) : Ending :=
  let (registry, _) := Registry.empty.registerAll Checks.catalog
  if a.looksOutside then
    match Connection.connect (x.kubeconfigs env) x.now a.settings with
    | .error e => .ofClusterError e
    | .ok client =>
      match a.command.execute .inTurn (client.fetchForRun x.recording.api) registry with
      | some result => .ofResult result
      | none => { err := "Error: the API server never answers\n", code := 1 }
  else
    let nothing : Scope → Id (Except Failure Snapshot) := fun _ => .ok {}
    .ofResult (a.command.execute .inTurn nothing registry)

end Arguments

end ClusterAudit.CommandLine
