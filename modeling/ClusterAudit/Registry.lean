/-
The checks there are to choose from, by name and by group. Names are unique and
never empty. Checks keep the order in which they were registered, as a whole
and within each group.
-/
import ClusterAudit.Check
import ClusterAudit.Failure
import ClusterAudit.Index

namespace ClusterAudit

structure Registry where
  checks : List Check := []
  groups : Index Check := []

namespace Registry

def empty : Registry := {}

def find? (r : Registry) (name : String) : Option Check := r.checks.find? (·.name == name)

def get (r : Registry) (name : String) : Except Failure Check :=
  match r.find? name with
  | some c => .ok c
  | none => .error (.checkNotFound name)

/-- `c` in the group `group`, unless a check of that name is in it already. -/
def fileUnder (groups : Index Check) (c : Check) (group : String) : Index Check :=
  if (groups.get group).any (·.name == c.name) then groups else groups.add group c

/-- `c` in both tables. -/
def add (r : Registry) (c : Check) : Registry where
  checks := r.checks ++ [c]
  groups := c.groups.foldl (fileUnder · c) r.groups

/-- One attempt to register a check: the registry after it, and why the check was
refused if it was. It is refused if its name is empty or taken. -/
def offer (r : Registry) (c : Check) : Registry × Option Failure :=
  if c.name = "" then (r, some .emptyCheckName)
  else if (r.find? c.name).isSome then (r, some (.duplicateCheck c.name))
  else (r.add c, none)

/-- The registry after an attempt that succeeds. -/
def register (r : Registry) (c : Check) : Except Failure Registry :=
  match r.offer c with
  | (r, none) => .ok r
  | (_, some e) => .error e

/-- Registers one check after the other, until one is refused. Those before it
stay. -/
def registerAll (r : Registry) : List Check → Registry × Option Failure
  | [] => (r, none)
  | c :: cs =>
    match r.offer c with
    | (r, none) => r.registerAll cs
    | (r, some e) => (r, some e)

def groupNames (r : Registry) : List String := Index.keys r.groups

/-- The checks of a group; none if there is no such group. -/
def group (r : Registry) (name : String) : List Check := Index.get r.groups name

/-- The checks of several groups, each of them once. -/
def union (r : Registry) (names : List String) : List Check :=
  (names.flatMap r.group).eraseDupsBy fun a b => a.name == b.name

def size (r : Registry) : Nat := r.checks.length

def isEmpty (r : Registry) : Bool := r.checks.isEmpty

/-- How many checks and groups there are, in one line. -/
def describe (r : Registry) : String :=
  "Registry \x7b checks: " ++ toString r.size ++ ", groups: " ++ toString r.groups.length ++ " \x7d"

end Registry

end ClusterAudit
