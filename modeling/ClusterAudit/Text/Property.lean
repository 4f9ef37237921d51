/-
Properties of characters as the Unicode tables give them: a table is a list
of runs of code points, each with its step, so that alternating capital and
small letters take one run.
-/
namespace ClusterAudit.Text

/-- The code points `first`, `first + step`, … up to `last`. -/
structure Stride where
  first : Nat
  last : Nat
  step : Nat := 1

namespace Stride

def contains (r : Stride) (c : Char) : Bool :=
  r.first ≤ c.toNat && c.toNat ≤ r.last && (c.toNat - r.first) % r.step == 0

end Stride

/-- Whether one of the runs of `table` holds `c`. -/
def listed (table : List Stride) (c : Char) : Bool :=
  table.any (·.contains c)

end ClusterAudit.Text
