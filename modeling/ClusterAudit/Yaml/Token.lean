/-
The tokens of YAML. Blocks have brackets here just as flows have: where one
begins and ends is told by the indentation of its lines, and a key has a mark
of its own even where the text has only the colon after it.
-/
namespace ClusterAudit.Yaml

inductive Token where
  | streamEnd
  /-- The directive `%YAML`. -/
  | version (major minor : Nat)
  /-- The directive `%TAG`: what a handle stands for. -/
  | handle (name meaning : String)
  | documentStart
  | documentEnd
  | blockList
  | blockMap
  | blockEnd
  | openList
  | closeList
  | openMap
  | closeMap
  | entry
  | comma
  | key
  | value
  | alias (name : String)
  | anchor (name : String)
  /-- A tag by its handle and the rest of its name; without a handle the name
  is complete. -/
  | tag (handle name : String)
  | scalar (text : String) (isPlain : Bool)
  deriving DecidableEq, Inhabited

end ClusterAudit.Yaml
