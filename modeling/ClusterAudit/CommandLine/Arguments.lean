/-
Command lines as a whole: a command with all it needs to know, and the settings
for reaching the cluster, from flags and from the environment.
-/
import ClusterAudit.CommandLine.Reading
import ClusterAudit.Connection.Settings

namespace ClusterAudit.CommandLine

open Connection (Settings)

/-- What a run is asked to do. -/
structure RunRequest where
  groups : List String := []
  ignoredGroups : List String := []
  checks : List String := []
  ignoredChecks : List String := []
  namespaces : List String := []
  ignoredNamespaces : List String := []
  level : Option Severity := none
  format : Format := .text
  deriving DecidableEq

inductive Command where
  | list (groups : List String)
  | groups
  | run (request : RunRequest)
  deriving DecidableEq

structure Arguments where
  settings : Settings
  debug : Bool := false
  command : Command

namespace Given

def runRequest (g : Given) : RunRequest where
  groups := g.groups
  ignoredGroups := g.ignoredGroups
  checks := g.checks
  ignoredChecks := g.ignoredChecks
  namespaces := g.namespaces
  ignoredNamespaces := g.ignoredNamespaces
  level := g.level
  format := g.output.getD .text

/-- The command whose level `l` says `g`. -/
def command (g : Given) : Level → Command
  | .list => .list g.groups
  | .run => .run g.runRequest
  | _ => .groups

def settings (g : Given) : Settings where
  kubeconfig := g.kubeconfig
  context := g.context
  timeout := g.timeout.map .ofSeconds

/-- Whether none of the flags of the top level has been given. -/
def saysNothing (g : Given) : Bool :=
  g.kubeconfig.isNone && g.context.isNone && g.timeout.isNone && !g.debug

end Given

/-- The end of a level. Where a level does not name a kubeconfig the
environment does, and then the name must not be empty. -/
def Reading.close (env : StringMap) (r : Reading) : Except UsageError Given := do
  let g ← r.settle
  if g.kubeconfig.isNone && env.get? "CLUSTERLINT_KUBECONFIG" == some "" then
    throw .invalidValue
  return g

/-- Whether the environment says what a flag on the top level could say. -/
def isSetUp (env : StringMap) : Bool :=
  env.contains "CLUSTERLINT_KUBECONFIG" || env.contains "CLUSTERLINT_CONTEXT"

/-- Asking for help, on a command if one is named. That one has to exist, and
no command has commands of its own to ask about. -/
def helpOn : List String → UsageError
  | [] => .help
  | name :: rest =>
    if (name == "help" || (Level.commands.lookup name).isSome) && rest.isEmpty then .help
    else .unknownCommand

namespace Arguments

/-- What is said closer to the command counts more, and flags count more than
the environment. -/
def parse (env : StringMap) (args : List String) : Except UsageError Arguments := do
  let (top, done) ← Reading.continue .top {} args
  match done with
  | .help rest => throw (helpOn rest)
  | .out =>
    let g ← top.close env
    throw (if g.saysNothing && !isSetUp env then .nothingAsked else .missingCommand)
  | .command level rest =>
    let (inner, _) ← Reading.continue level {} rest
    let inner ← inner.close env
    let outer ← top.close env
    return {
      settings :=
        ((Settings.fromEnvironment env).overriddenBy outer.settings).overriddenBy inner.settings
      debug := outer.debug || inner.debug
      command := inner.command level }

end Arguments

end ClusterAudit.CommandLine
