/-
The gaps between the words of a scalar that is not a block. Blanks on one line
stay. A line break takes the blanks around it away; by itself it counts as one
blank, and of several only the first is dropped.
-/
import ClusterAudit.Yaml.Character

namespace ClusterAudit.Yaml

/-- What has been read since the last word, last character first. -/
inductive Gap where
  | blanks (cs : List Char)
  /-- The first line break, or nothing if it was escaped, and all others. -/
  | breaks (first : List Char) (others : List Char)

namespace Gap

def empty : Gap := .blanks []

def isEmpty : Gap → Bool
  | .blanks cs => cs.isEmpty
  | .breaks _ _ => false

/-- Whether there is a line break in it. -/
def isBroken : Gap → Bool
  | .blanks _ => false
  | .breaks _ _ => true

/-- One blank or line break more. -/
def push (g : Gap) (c : Char) : Gap :=
  match g with
  | .blanks cs => if isBreak c then .breaks [c] [] else .blanks (c :: cs)
  | .breaks first others => if isBreak c then .breaks first (c :: others) else .breaks first others

/-- The characters that the gap counts for, last first. -/
def folded : Gap → List Char
  | .blanks cs => cs
  | .breaks ['\n'] [] => [' ']
  | .breaks ['\n'] others => others
  | .breaks first others => others ++ first

end Gap

end ClusterAudit.Yaml
