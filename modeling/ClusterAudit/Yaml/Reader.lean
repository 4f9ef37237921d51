/-
The values that a text in YAML writes, one for each of its documents. Aliases
are replaced by what they stand for; there is a limit to how deep a value may
be, and to how often aliases may be followed.

Only kubeconfigs are read in this way. All of YAML is there because a kubeconfig
may be written in any part of it, and because a text that is not YAML has to be
told from one that is: with it no cluster is reached.
-/
import ClusterAudit.Yaml.Document
import ClusterAudit.Yaml.Layout
import ClusterAudit.Yaml.Scalar.Meaning

namespace ClusterAudit.Yaml

namespace Value

/-- The name of a tag that is not one of the common ones. -/
def ownTag? (props : Properties) : Option String :=
  match props.tag.map String.toList with
  | some ('!' :: name) => some (String.ofList name)
  | _ => none

/-- The nodes with anchors, the last first. -/
abbrev Targets := List (Nat × Node)

/-- Follows an alias; what is left is how many more may be followed. -/
def follow (targets : Targets) (anchor : Nat) : StateT Nat Option Node := do
  match ← get with
  | 0 => failure
  | left + 1 =>
    set left
    targets.lookup anchor

/-- What there is in a map: each key once. -/
def mapOf? (entries : List (Value × Value)) : Option Value :=
  if hasRepeatedKey entries then none else some (.map entries)

/-- The value that a node writes, in a document with the anchors `targets`. It may
have `depth` levels of lists and maps. The tag of a node counts once: the node
itself then, and the keys of a map with such a tag, are read without their
tags. -/
def ofNode (targets : Targets) (depth : Nat) (isTagged : Bool) (n : Node) : StateT Nat Option Value := do
  let (n, isTagged) ← match n with
    | .alias anchor => do pure (← follow targets anchor, false)
    | n => pure (n, isTagged)
  let own := if isTagged then none else ownTag? n.props
  if own == some "" then failure
  let isTagged := isTagged || own.isSome
  let content : Value ← match n, depth with
    | .alias _, _ => failure
    | .scalar props text isPlain, _ =>
      Meaning.scalar? (if isTagged then none else props.tag) isPlain text
    | .list _ items, depth + 1 => do pure (.list (← items.mapM (ofNode targets depth false)))
    | .map _ entries, depth + 1 =>
      mapOf? (← entries.mapM fun (k, v) => do
        return (← ofNode targets depth isTagged k, ← ofNode targets depth false v))
    | _, 0 => failure
  return match own with
    | some tag => .tagged tag content
    | none => content

/-- How many levels a value may be deep. -/
def deepestLevel : Nat := 128

/-- How often aliases may be followed for each node of a document. -/
def followsPerNode : Nat := 100

/-- The value of a document. -/
def ofRoot? (root : Node) : Option Value :=
  let targets := root.anchored.reverse
  ((ofNode targets deepestLevel false root).run (followsPerNode * root.size)).map (·.1)

end Value

/-- The values of all documents of a text. They end where one of the documents
has a fault, and that one is `none`. -/
def read (text : String) : List (Option Value) :=
  match characters? text with
  | none => [none]
  | some cs => (documentsOf (tokens cs)).map (·.bind Value.ofRoot?)

end ClusterAudit.Yaml
