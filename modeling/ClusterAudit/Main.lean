/-
The program: arguments and environment in, text and an exit code out. What a
run is to see of the world is read from the standard input, as a document with
the fields `files`, `now` and `routes`.
-/
import ClusterAudit.CommandLine.Session

namespace ClusterAudit.CommandLine

/-- The names of the environment variables that matter. -/
def settingNames : List String :=
  ["CLUSTERLINT_KUBECONFIG", "CLUSTERLINT_CONTEXT", "CLUSTERLINT_TIMEOUT_SECS", "KUBECONFIG", "HOME"]

def environment : IO StringMap := do
  let pairs ← settingNames.filterMapM fun name => do return (← IO.getEnv name).map (name, ·)
  return .ofList pairs

/-- All that the standard input holds. -/
partial def readAll (input : IO.FS.Stream) (text : String) : IO String := do
  let line ← input.getLine
  if line.isEmpty then return text else readAll input (text ++ line)

def surroundings (a : Arguments) : IO (Option Surroundings) := do
  if a.looksOutside then
    return (Json.parse? (← readAll (← IO.getStdin) "")).bind Surroundings.decode?
  else return some {}

def ending (args : List String) : IO Ending := do
  let env ← environment
  match Arguments.parse env args with
  | .error e => return .ofUsage e
  | .ok a =>
    match ← surroundings a with
    | some x => return a.perform env x
    | none => return { err := "Error: the standard input is not a document to run on\n", code := 1 }

end ClusterAudit.CommandLine

def main (args : List String) : IO UInt32 := do
  let ending ← ClusterAudit.CommandLine.ending args
  (← IO.getStdout).putStr ending.out
  (← IO.getStderr).putStr ending.err
  return ending.code
