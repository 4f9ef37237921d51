/-
Which namespaces are looked at: only some, all but some, or all of them.
`covers` is what a scope means; `fieldSelector` is as much of it as a single
list request can ask of the API server.
-/
import ClusterAudit.Choice
import ClusterAudit.Failure

namespace ClusterAudit

/-- A choice of namespaces. -/
structure Scope extends Choice
  deriving DecidableEq

namespace Scope

/-- Every namespace. -/
def all : Scope := ⟨.all⟩

instance : Inhabited Scope := ⟨all⟩

def ofLists (included excluded : List String) : Except Failure Scope :=
  match Choice.ofLists? included excluded with
  | some c => .ok ⟨c⟩
  | none => .error .conflictingNamespaces

/-- Whether an object in the namespace `ns`, or outside of namespaces, is
looked at. The latter always is. -/
def covers (s : Scope) : Option String → Bool
  | none => true
  | some ns => s.admits ns

/-- One condition on the namespace of an object. -/
inductive Term where
  | is (ns : String)
  | isNot (ns : String)
  deriving DecidableEq

namespace Term

def text : Term → String
  | .is ns => "metadata.namespace=" ++ ns
  | .isNot ns => "metadata.namespace!=" ++ ns

end Term

/-- The conditions that a request can state. A request can only join
conditions by "and", so a choice between several namespaces yields none. -/
def terms (s : Scope) : List Term :=
  match s.included with
  | [] => s.excluded.map .isNot
  | [ns] => [.is ns]
  | _ => []

/-- The conditions as a request carries them. -/
def fieldSelector (s : Scope) : Option String :=
  if s.terms.isEmpty then none else some (",".intercalate (s.terms.map Term.text))

@[simp] theorem covers_none (s : Scope) : s.covers none = true := rfl

@[simp] theorem covers_all (ns : Option String) : all.covers ns = true := by cases ns <;> rfl

end Scope

end ClusterAudit
