/-
What a document of YAML is made of: scalars, lists and maps, each perhaps with
a tag and an anchor, and aliases that stand for what an anchor is at.
-/
namespace ClusterAudit.Yaml

/-- What may be said in front of a node. -/
structure Properties where
  /-- The number by which aliases refer to the node. -/
  anchor : Option Nat := none
  tag : Option String := none
  deriving Inhabited

inductive Node where
  | alias (anchor : Nat)
  | scalar (props : Properties) (text : String) (isPlain : Bool)
  | list (props : Properties) (items : List Node)
  | map (props : Properties) (entries : List (Node × Node))
  deriving Inhabited

namespace Node

/-- A scalar without any text. -/
def blank (props : Properties) : Node := .scalar props "" true

def props : Node → Properties
  | .alias _ => {}
  | .scalar props _ _ | .list props _ | .map props _ => props

mutual

/-- The nodes inside of a node, itself included; lists and maps count twice, for
they begin and end. -/
def size : Node → Nat
  | .alias _ => 1
  | .scalar _ _ _ => 1
  | .list _ items => sizeOfItems items + 2
  | .map _ entries => sizeOfEntries entries + 2

def sizeOfItems : List Node → Nat
  | [] => 0
  | n :: rest => size n + sizeOfItems rest

def sizeOfEntries : List (Node × Node) → Nat
  | [] => 0
  | (k, v) :: rest => size k + size v + sizeOfEntries rest

end

mutual

/-- The nodes with anchors, in the order in which they begin. Of two with one
anchor the later one counts. -/
def anchored : Node → List (Nat × Node)
  | .alias _ => []
  | .scalar props text isPlain =>
    (props.anchor.map fun a => (a, Node.scalar props text isPlain)).toList
  | .list props items =>
    (props.anchor.map fun a => (a, Node.list props items)).toList ++ anchoredItems items
  | .map props entries =>
    (props.anchor.map fun a => (a, Node.map props entries)).toList ++ anchoredEntries entries

def anchoredItems : List Node → List (Nat × Node)
  | [] => []
  | n :: rest => anchored n ++ anchoredItems rest

def anchoredEntries : List (Node × Node) → List (Nat × Node)
  | [] => []
  | (k, v) :: rest => anchored k ++ anchored v ++ anchoredEntries rest

end

end Node

end ClusterAudit.Yaml
