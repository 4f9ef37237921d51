/-
How grave a diagnostic is.
-/
import ClusterAudit.Json
import ClusterAudit.Text.Blank

namespace ClusterAudit

inductive Severity where
  | error
  | warning
  | suggestion
  deriving DecidableEq, Repr

namespace Severity

/-- Gravest first. -/
def all : List Severity := [.error, .warning, .suggestion]

def name : Severity → String
  | .error => "error"
  | .warning => "warning"
  | .suggestion => "suggestion"

/-- The severity of exactly this name. -/
def ofName? (s : String) : Option Severity := all.find? (·.name == s)

/-- The severity that `s` names, in any mixture of capital and small letters
and with blanks around it. Beyond ASCII only the Kelvin sign and the dotted
capital I have ASCII letters in their small forms, and neither can be part of
one of these names. -/
def parse? (s : String) : Option Severity :=
  ofName? (String.ofList ((Text.trim s.toList).map Char.toLower))

def encode (s : Severity) : Json := .str s.name

/-- The exact name, or an object with that name for its one field and `null`
in it. -/
def decode? : Json → Option Severity
  | .str s => ofName? s
  | .obj [(s, .null)] => ofName? s
  | _ => none

@[simp] theorem ofName?_name (s : Severity) : ofName? s.name = some s := by cases s <;> decide

@[simp] theorem decode?_encode (s : Severity) : decode? s.encode = some s := ofName?_name s

end Severity

end ClusterAudit
