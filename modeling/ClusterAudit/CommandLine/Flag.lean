/-
The flags of the command line: how each is written, on which level it may
stand, and what it does with its value. The program has one level before the
name of a command and one after it; some flags may stand on either.
-/
import ClusterAudit.Severity
import ClusterAudit.Text.Cut
import ClusterAudit.Text.Numeral

namespace ClusterAudit.CommandLine

/-- What ends the reading of a command line before there is a command to carry
out: a mistake, or a wish to be told about the program. -/
inductive UsageError where
  /-- A flag that does not exist, or an argument where none belongs. -/
  | unknownArgument
  | unknownCommand
  /-- A flag without its value, or a value that is not one of those allowed. -/
  | invalidValue
  /-- A value that cannot be understood, and why if there is more to say. -/
  | unreadableValue (cause : Option String)
  /-- A flag for one value given twice. -/
  | repeated
  /-- A value for a flag that takes none. -/
  | unwantedValue
  | help
  | version
  /-- No argument at all. -/
  | nothingAsked
  | missingCommand
  deriving DecidableEq

inductive Format where
  | text
  | json
  deriving DecidableEq

namespace Format

def ofName? : String → Option Format
  | "text" => some .text
  | "json" => some .json
  | _ => none

end Format

inductive Level where
  | top
  | list
  | groups
  | run
  deriving DecidableEq

namespace Level

/-- The levels below the top one, by the names of their commands. -/
def commands : List (String × Level) := [("list", .list), ("groups", .groups), ("run", .run)]

end Level

inductive Flag where
  | kubeconfig
  | context
  | timeout
  | debug
  | help
  | version
  /-- One group to list. -/
  | group
  | groups
  | ignoreGroups
  | checks
  | ignoreChecks
  | namespaces
  | ignoreNamespaces
  | level
  | output
  deriving DecidableEq

namespace Flag

/-- The name that follows two hyphens. -/
def long : Flag → String
  | kubeconfig => "kubeconfig"
  | context => "context"
  | timeout => "timeout"
  | debug => "debug"
  | help => "help"
  | version => "version"
  | group => "group"
  | groups => "groups"
  | ignoreGroups => "ignore-groups"
  | checks => "checks"
  | ignoreChecks => "ignore-checks"
  | namespaces => "namespace"
  | ignoreNamespaces => "ignore-namespace"
  | level => "level"
  | output => "output"

/-- The letter that follows one hyphen. -/
def short? : Flag → Option Char
  | help => some 'h'
  | version => some 'V'
  | group | groups => some 'g'
  | ignoreGroups => some 'G'
  | checks => some 'c'
  | ignoreChecks => some 'C'
  | namespaces => some 'n'
  | ignoreNamespaces => some 'N'
  | output => some 'o'
  | kubeconfig | context | timeout | debug | level => none

/-- Whether the flag says all by itself. -/
def isSwitch : Flag → Bool
  | debug | help | version => true
  | _ => false

/-- The flags that may stand on a level. -/
def onLevel : Level → List Flag
  | .top => [kubeconfig, context, timeout, debug, help, version]
  | .list => [kubeconfig, context, timeout, debug, help, group]
  | .groups => [kubeconfig, context, timeout, debug, help]
  | .run =>
    [kubeconfig, context, timeout, debug, help, groups, ignoreGroups, checks, ignoreChecks,
     namespaces, ignoreNamespaces, level, output]

def ofLong? (l : Level) (name : String) : Option Flag := (onLevel l).find? (·.long == name)

def ofShort? (l : Level) (c : Char) : Option Flag := (onLevel l).find? (·.short? == some c)

end Flag

/-- What has been said on one level. -/
structure Given where
  kubeconfig : Option String := none
  context : Option String := none
  timeout : Option Nat := none
  debug : Bool := false
  groups : List String := []
  ignoredGroups : List String := []
  checks : List String := []
  ignoredChecks : List String := []
  namespaces : List String := []
  ignoredNamespaces : List String := []
  level : Option Severity := none
  output : Option Format := none

namespace Given

/-- The value of a flag that may be given once. -/
def once {α : Type} (earlier : Option α) (value : Except UsageError α) :
    Except UsageError (Option α) :=
  if earlier.isSome then .error .repeated else value.map some

def readPath (v : String) : Except UsageError String :=
  if v.isEmpty then .error .invalidValue else .ok v

def readSeconds (v : String) : Except UsageError Nat :=
  match Text.unsigned? v.toList with
  | some n => .ok n
  | none => .error (.unreadableValue none)

def readLevel (v : String) : Except UsageError Severity :=
  match Severity.parse? v with
  | some s => .ok s
  | none =>
    .error <| .unreadableValue <| some <|
      "invalid level '" ++ v ++ "', expected one of: " ++
        ", ".intercalate (Severity.all.map Severity.name)

def readFormat (v : String) : Except UsageError Format :=
  match Format.ofName? v with
  | some f => .ok f
  | none => .error .invalidValue

/-- `g` after a flag with a value. -/
def withValue (g : Given) (f : Flag) (v : String) : Except UsageError Given :=
  match f with
  | .kubeconfig => return { g with kubeconfig := ← once g.kubeconfig (readPath v) }
  | .context => return { g with context := ← once g.context (.ok v) }
  | .timeout => return { g with timeout := ← once g.timeout (readSeconds v) }
  | .group => return { g with groups := g.groups ++ [v] }
  | .groups => return { g with groups := g.groups ++ Text.pieces ',' v }
  | .ignoreGroups => return { g with ignoredGroups := g.ignoredGroups ++ Text.pieces ',' v }
  | .checks => return { g with checks := g.checks ++ Text.pieces ',' v }
  | .ignoreChecks => return { g with ignoredChecks := g.ignoredChecks ++ Text.pieces ',' v }
  | .namespaces => return { g with namespaces := g.namespaces ++ Text.pieces ',' v }
  | .ignoreNamespaces =>
    return { g with ignoredNamespaces := g.ignoredNamespaces ++ Text.pieces ',' v }
  | .level => return { g with level := ← once g.level (readLevel v) }
  | .output => return { g with output := ← once g.output (readFormat v) }
  | .debug | .help | .version => .error .unwantedValue

/-- `g` after a switch. -/
def switched (g : Given) (f : Flag) : Except UsageError Given :=
  match f with
  | .help => .error .help
  | .version => .error .version
  | .debug => if g.debug then .error .repeated else .ok { g with debug := true }
  | _ => .error .invalidValue

end Given

end ClusterAudit.CommandLine
