/-
Listings of checks and of groups, by name.
-/
import ClusterAudit.Registry

namespace ClusterAudit

namespace Check

/-- The name, the groups and the description, between tabs. -/
def line (c : Check) : String := c.name ++ "\t" ++ ",".intercalate c.groups ++ "\t" ++ c.description

end Check

namespace Registry

/-- The checks of the named groups, or all of them if no group is named. -/
def listed (r : Registry) (groups : List String) : List Check :=
  if groups.isEmpty then r.checks else r.union groups

end Registry

namespace Listing

def byName (checks : List Check) : List Check := checks.mergeSort fun a b => decide (a.name ≤ b.name)

def checks (cs : List Check) : String := String.join ((byName cs).map (·.line ++ "\n"))

def groups (names : List String) : String :=
  String.join ((names.mergeSort fun a b => decide (a ≤ b)).map (· ++ "\n"))

end Listing

end ClusterAudit
