/-
How to reach a cluster, as far as the user says: which kubeconfig, which
context of it, and how long to wait.
-/
import ClusterAudit.Duration
import ClusterAudit.Json
import ClusterAudit.Text.Numeral

namespace ClusterAudit.Connection

structure Settings where
  kubeconfig : Option String := none
  context : Option String := none
  /-- How long fetching a whole snapshot may take. -/
  timeout : Option Duration := none
  deriving DecidableEq

namespace Settings

/-- The settings that environment variables make. A timeout that is not a
number of seconds counts for nothing. -/
def fromEnvironment (env : StringMap) : Settings where
  kubeconfig := env.get? "CLUSTERLINT_KUBECONFIG"
  context := env.get? "CLUSTERLINT_CONTEXT"
  timeout := do
    let text ← env.get? "CLUSTERLINT_TIMEOUT_SECS"
    let seconds ← Text.unsigned? text.toList
    return .ofSeconds seconds

/-- `s`, but for what `t` says. -/
def overriddenBy (s t : Settings) : Settings where
  kubeconfig := t.kubeconfig <|> s.kubeconfig
  context := t.context <|> s.context
  timeout := t.timeout <|> s.timeout

def encode (s : Settings) : Json :=
  .obj [
    ("kubeconfig", Json.ofOption .str s.kubeconfig),
    ("context", Json.ofOption .str s.context),
    ("timeout", Json.ofOption
      (fun t : Duration => .obj [("secs", .int t.wholeSeconds), ("nanos", .int t.subsecond)])
      s.timeout)]

/-- A span of time by its whole seconds and the nanoseconds beside them. -/
def decodeTimeout? (j : Json) : Option Duration := do
  let fields : Json.Fields ← j.record? ["secs", "nanos"] 2
  let seconds ← fields.required (Json.intWithin? 0 0xFFFFFFFFFFFFFFFF) "secs"
  let nanoseconds ← fields.required (Json.intWithin? 0 0xFFFFFFFF) "nanos"
  return ⟨seconds.toNat * 1000000000 + nanoseconds.toNat⟩

def decode? (j : Json) : Option Settings := do
  let fields : Json.Fields ← j.record? ["kubeconfig", "context", "timeout"] 3
  return {
    kubeconfig := ← fields.optional Json.string? "kubeconfig"
    context := ← fields.optional Json.string? "context"
    timeout := ← fields.optional decodeTimeout? "timeout" }

end Settings

end ClusterAudit.Connection
