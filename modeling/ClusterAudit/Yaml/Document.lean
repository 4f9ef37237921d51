/-
From tokens to the documents of a stream. Each function reads a part of a
document at the place of the stream where it begins, and fails if the tokens
there do not make one.
-/
import ClusterAudit.Yaml.Node
import ClusterAudit.Yaml.Token

namespace ClusterAudit.Yaml

/-- The tokens that are left, and what has been agreed upon before them. -/
structure Stream where
  tokens : List Token
  /-- What the handles of tags stand for. -/
  handles : List (String × String) := []
  /-- The number that each name of an anchor stands for at this place. -/
  anchors : List (String × Nat) := []

namespace Stream

abbrev Reader := StateT Stream Option

/-- The next token. -/
def peek : Reader Token := do
  match (← get).tokens with
  | [] => failure
  | t :: _ => return t

def skip : Reader Unit := modify fun s => { s with tokens := s.tokens.drop 1 }

/-- Skips the next token if it is `t`, and tells whether it is. -/
def skipIf (t : Token) : Reader Bool := do
  if (← peek) == t then skip; return true
  else return false

/-- Whether the next token is one of these. -/
def isAt (ts : List Token) : Reader Bool := return ts.contains (← peek)

/-! ## Properties -/

/-- A name for the node that begins here. Its number is how many names there
have been before. -/
def define (name : String) : Reader Nat := do
  let s ← get
  let anchor := s.anchors.length
  set { s with anchors := (name, anchor) :: s.anchors.filter (·.1 != name) }
  return anchor

def resolve (name : String) : Reader Nat := do (← get).anchors.lookup name

def fullTag (handle name : String) : Reader String := do
  if handle.isEmpty then return name
  else return (← (← get).handles.lookup handle) ++ name

def anchor : Reader (Option String) := do
  match ← peek with
  | .anchor name => skip; return some name
  | _ => return none

def tag : Reader (Option (String × String)) := do
  match ← peek with
  | .tag handle name => skip; return some (handle, name)
  | _ => return none

/-- An anchor and a tag, in either order. -/
def properties : Reader Properties := do
  let before ← anchor
  let tag ← tag
  let name ← match before with
    | some name => pure (some name)
    | none => anchor
  let tag ← tag.mapM fun (handle, name) => fullTag handle name
  return { anchor := ← name.mapM define, tag := tag }

/-! ## Nodes -/

mutual

/-- A node. Only a node of a block may be a block itself, and only in a map a
list may be one whose dashes are no farther right than the map. -/
def node (fuel : Nat) (isBlock allowsDashes : Bool) : Reader Node := do
  match fuel with
  | 0 => failure
  | fuel + 1 =>
    match ← peek with
    | .alias name =>
      skip
      return .alias (← resolve name)
    | _ =>
      let props ← properties
      match ← peek with
      | .scalar text isPlain =>
        skip
        let tag := if props.tag == some "!" then none else props.tag
        return .scalar { props with tag := tag } text isPlain
      | .openList => skip; return .list props (← flowItems fuel true [])
      | .openMap => skip; return .map props (← flowEntries fuel true [])
      | t =>
        if t == .entry && allowsDashes then return .list props (← dashes fuel [])
        else if t == .blockList && isBlock then
          skip
          return .list props (← blockItems fuel [])
        else if t == .blockMap && isBlock then
          skip
          return .map props (← blockEntries fuel [])
        else if props.anchor.isSome || props.tag.isSome then return .blank props
        else failure

/-- A node, or a blank one if there is a token that cannot begin one here. -/
def nodeUnless (fuel : Nat) (isBlock allowsDashes : Bool) (ts : List Token) : Reader Node := do
  match fuel with
  | 0 => failure
  | fuel + 1 =>
    if ← isAt ts then return .blank {}
    else node fuel isBlock allowsDashes

/-- The entries of a list up to the end of its block. -/
def blockItems (fuel : Nat) (done : List Node) : Reader (List Node) := do
  match fuel with
  | 0 => failure
  | fuel + 1 =>
    if ← skipIf .entry then
      blockItems fuel ((← nodeUnless fuel true false [.entry, .blockEnd]) :: done)
    else if ← skipIf .blockEnd then return done.reverse
    else failure

/-- The entries of a list without a block of its own. -/
def dashes (fuel : Nat) (done : List Node) : Reader (List Node) := do
  match fuel with
  | 0 => failure
  | fuel + 1 =>
    if ← skipIf .entry then
      dashes fuel ((← nodeUnless fuel true false [.entry, .key, .value, .blockEnd]) :: done)
    else return done.reverse

/-- The entries of a map up to the end of its block. -/
def blockEntries (fuel : Nat) (done : List (Node × Node)) : Reader (List (Node × Node)) := do
  match fuel with
  | 0 => failure
  | fuel + 1 =>
    let ends : List Token := [.key, .value, .blockEnd]
    if ← skipIf .key then
      let key ← nodeUnless fuel true true ends
      let value ← if ← skipIf .value then nodeUnless fuel true true ends else pure (.blank {})
      blockEntries fuel ((key, value) :: done)
    else if ← skipIf .blockEnd then return done.reverse
    else failure

/-- The items of a list in brackets. An item that is a key is a map of one
entry. -/
def flowItems (fuel : Nat) (isFirst : Bool) (done : List Node) : Reader (List Node) := do
  match fuel with
  | 0 => failure
  | fuel + 1 =>
    if ← skipIf .closeList then return done.reverse
    else
      if !isFirst then
        if !(← skipIf .comma) then failure
      if ← skipIf .key then
        let key ← flowKey fuel
        let value ← if ← skipIf .value then nodeUnless fuel false false [.comma, .closeList]
          else pure (.blank {})
        flowItems fuel false (.map {} [(key, value)] :: done)
      else if ← skipIf .closeList then return done.reverse
      else flowItems fuel false ((← node fuel false false) :: done)

/-- The key of a map of one entry. Where there is none the next token is passed
over. -/
def flowKey (fuel : Nat) : Reader Node := do
  match fuel with
  | 0 => failure
  | fuel + 1 =>
    if ← isAt [.value, .comma, .closeList] then
      skip
      return .blank {}
    else node fuel false false

/-- The entries of a map in brackets. One without a colon has a blank value. -/
def flowEntries (fuel : Nat) (isFirst : Bool) (done : List (Node × Node)) :
    Reader (List (Node × Node)) := do
  match fuel with
  | 0 => failure
  | fuel + 1 =>
    if ← skipIf .closeMap then return done.reverse
    else
      if !isFirst then
        if !(← skipIf .comma) then failure
      let ends : List Token := [.comma, .closeMap]
      if ← skipIf .key then
        let key ← nodeUnless fuel false false (.value :: ends)
        let value ← if ← skipIf .value then nodeUnless fuel false false ends else pure (.blank {})
        flowEntries fuel false ((key, value) :: done)
      else if ← skipIf .closeMap then return done.reverse
      else
        let key ← node fuel false false
        flowEntries fuel false ((key, .blank {}) :: done)

end

/-! ## Documents -/

/-- The handles that need no directive. -/
def commonHandles : List (String × String) := [("!", "!"), ("!!", "tag:yaml.org,2002:")]

/-- The directives before a document, of which there are no more than `fuel`: one
version at most, and no handle twice. -/
def directives (fuel : Nat) (isVersioned : Bool) (handles : List (String × String)) :
    Reader (List (String × String)) := do
  match fuel with
  | 0 => failure
  | fuel + 1 =>
    match ← peek with
    | .version major minor =>
      if !isVersioned && major == 1 && (minor == 1 || minor == 2) then
        skip
        directives fuel true handles
      else failure
    | .handle name meaning =>
      if handles.any (·.1 == name) then failure
      else
        skip
        directives fuel isVersioned ((name, meaning) :: handles)
    | _ => return handles ++ commonHandles

/-- Marks that end a document, where there is none. -/
def skipEnds (fuel : Nat) : Reader Unit := do
  match fuel with
  | 0 => return
  | fuel + 1 => if ← skipIf .documentEnd then skipEnds fuel

/-- Tokens that belong to no node. -/
def isOutside : Token → Bool
  | .version _ _ | .handle _ _ | .documentStart | .documentEnd | .streamEnd => true
  | _ => false

/-- The next document, if the stream does not end before it. Only the first one
may go without a mark at its start, and then without directives. -/
def document (isFirst : Bool) : Reader (Option Node) := do
  let fuel := 3 * (← get).tokens.length + 3
  modify fun s => { s with handles := commonHandles, anchors := [] }
  if !isFirst then skipEnds fuel
  let t ← peek
  if t == .streamEnd then return none
  else
    let root ←
      if isFirst && (t == .documentEnd || !isOutside t) then node fuel true false
      else do
        let handles ← directives fuel false []
        modify fun s => { s with handles := handles }
        if !(← skipIf .documentStart) then failure
        if isOutside (← peek) then pure (.blank {}) else node fuel true false
    let _ ← skipIf .documentEnd
    return some root

/-- The documents from here on, of which there are no more than `fuel`. They end
where one of them has a fault, and that one is `none`. -/
def documents (fuel : Nat) (isFirst : Bool) (s : Stream) : List (Option Node) :=
  match fuel with
  | 0 => []
  | fuel + 1 =>
    match (document isFirst).run s with
    | none => [none]
    | some (none, _) => []
    | some (some root, s) => some root :: documents fuel false s

end Stream

/-- The documents of a stream. A stream without any is taken for one that is
blank. -/
def documentsOf (ts : List Token) : List (Option Node) :=
  match Stream.documents (ts.length + 1) true { tokens := ts } with
  | [] => [some (.blank {})]
  | documents => documents

end ClusterAudit.Yaml
