/-
Choosing among names by saying which to take or which to leave out, but not
both.
-/
namespace ClusterAudit

structure Choice where
  included : List String := []
  excluded : List String := []
  exclusive : included = [] ∨ excluded = [] := by simp
  deriving DecidableEq

namespace Choice

/-- Every name there is. -/
def all : Choice := {}

instance : Inhabited Choice := ⟨all⟩

/-- There is no such choice if names are given both ways. -/
def ofLists? (included excluded : List String) : Option Choice :=
  if h : included = [] ∨ excluded = [] then some ⟨included, excluded, h⟩ else none

/-- Whether nothing is said, so that every name is chosen. -/
def isAll (c : Choice) : Bool := c.included.isEmpty && c.excluded.isEmpty

def admits (c : Choice) (name : String) : Bool :=
  if c.included.isEmpty then !c.excluded.contains name else c.included.contains name

theorem admits_iff {c : Choice} {name : String} :
    c.admits name = true ↔ (c.included = [] ∨ name ∈ c.included) ∧ name ∉ c.excluded := by
  obtain ⟨i, e, rfl | rfl⟩ := c
  · simp [admits]
  · by_cases h : i = [] <;> simp [admits, h]

theorem ofLists?_eq_none_iff {i e : List String} : ofLists? i e = none ↔ i ≠ [] ∧ e ≠ [] := by
  simp [ofLists?]

theorem ofLists?_eq_some_iff {c : Choice} {included excluded : List String} :
    ofLists? included excluded = some c ↔ c.included = included ∧ c.excluded = excluded := by
  obtain ⟨i, e, hx⟩ := c
  unfold ofLists?
  split
  · simp [eq_comm]
  · next hno =>
    simp only [reduceCtorEq, false_iff]
    rintro ⟨rfl, rfl⟩
    exact hno hx

end Choice

end ClusterAudit
