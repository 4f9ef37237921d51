/-
From characters to tokens. Two things cannot be told by the characters alone.
Where a block begins and ends follows from the columns of its lines. And that
something is a key shows only at the colon behind it, so each thing that may
turn out to be one is remembered until then.
-/
import ClusterAudit.Yaml.Scalar.Block
import ClusterAudit.Yaml.Scalar.Plain
import ClusterAudit.Yaml.Scalar.Quoted
import ClusterAudit.Yaml.Tag

namespace ClusterAudit.Yaml

/-- Something that may turn out to be a key. -/
structure Candidate where
  place : Place
  /-- How many tokens stand before it. -/
  position : Nat
  /-- Whether it can be nothing else: in its column there are only keys. -/
  isRequired : Bool

namespace Candidate

/-- Whether a key can still end at `p`. It has to be on one line, and no longer
than 1024 characters. -/
def reaches (k : Candidate) (p : Place) : Bool :=
  k.place.line == p.line && p.index ≤ k.place.index + 1024

end Candidate

structure Layout where
  cursor : Cursor
  /-- Last first, and how many there are. -/
  tokens : List Token := []
  count : Nat := 0
  /-- The columns of the blocks that are open, innermost first. -/
  columns : List Nat := []
  /-- What may be a key, at this place and before each of the brackets that are
  open, innermost first. -/
  candidate : Option Candidate := none
  outer : List (Option Candidate) := []
  /-- Whether a key may begin here. -/
  allowsKey : Bool := true

namespace Layout

def isInFlow (l : Layout) : Bool := !l.outer.isEmpty

/-- The first column inside of the innermost block. -/
def margin (l : Layout) : Nat :=
  match l.columns with
  | [] => 0
  | column :: _ => column + 1

def column (l : Layout) : Nat := l.cursor.place.column

def surroundings (l : Layout) : Surroundings := ⟨l.isInFlow, l.margin⟩

def push (l : Layout) (t : Token) : Layout :=
  { l with tokens := t :: l.tokens, count := l.count + 1 }

/-- Puts a token before the last `behind` ones. -/
def insert (l : Layout) (behind : Nat) (t : Token) : Layout :=
  { l with tokens := l.tokens.take behind ++ t :: l.tokens.drop behind, count := l.count + 1 }

/-- Moves behind a mark of `n` characters that is the token `t`. -/
def take (l : Layout) (n : Nat) (t : Token) : Layout :=
  { l.push t with cursor := l.cursor.drop n }

/-- Takes over a token that ends at `s`. -/
def takeTo (l : Layout) (t : Token) (s : Cursor) : Layout := { l.push t with cursor := s }

/-! ## Blocks -/

/-- Closes blocks, innermost first. -/
def close (l : Layout) (margin : Nat) (columns : List Nat) : Layout :=
  match columns with
  | [] => { l with columns := [] }
  | column :: rest =>
    if margin ≤ column then close (l.push .blockEnd) margin rest else { l with columns := column :: rest }

/-- Closes the blocks that do not reach the column before `margin`. Brackets
keep all blocks open. -/
def unindent (l : Layout) (margin : Nat) : Layout :=
  if l.isInFlow then l else l.close margin l.columns

/-- Opens a block in a column, if it is inside of the innermost one; the token
for it goes before the last `behind` ones. -/
def indent (l : Layout) (column behind : Nat) (t : Token) : Layout :=
  if !l.isInFlow && l.margin ≤ column then
    { l.insert behind t with columns := column :: l.columns }
  else l

/-! ## Keys -/

/-- Gives up the candidate, unless it can be nothing but a key. -/
def dropCandidate? (l : Layout) : Option Layout :=
  if l.candidate.any (·.isRequired) then none else some { l with candidate := none }

/-- Remembers that a key may begin here. -/
def noteCandidate? (l : Layout) : Option Layout :=
  if l.allowsKey then do
    let l ← l.dropCandidate?
    some { l with candidate := some ⟨l.cursor.place, l.count,
      !l.isInFlow && l.margin == l.column + 1⟩ }
  else some l

/-- Gives up a candidate that can be a key no longer. Those before the brackets
wait until these are closed. -/
def dropStale? (l : Layout) : Option Layout :=
  if l.candidate.all (·.reaches l.cursor.place) then some l else l.dropCandidate?

/-! ## Tokens -/

/-- Skips blanks, comments and line breaks. Tabs are no indentation. A byte order
mark may begin a line. There are no more than `fuel` lines. -/
def skipSpace (fuel : Nat) (l : Layout) : Layout :=
  match fuel with
  | 0 => l
  | fuel + 1 =>
    let s := l.cursor
    let s := if s.place.column == 0 && s.meets (·.toNat == 0xFEFF) then s.next else s
    let s := s.dropWhile fun c => c == ' ' || (c == '\t' && (l.isInFlow || !l.allowsKey))
    let s := if s.meets (· == '#') then s.dropWhile (!isBreak ·) else s
    if s.meets isBreak then
      skipSpace fuel { l with cursor := s.next, allowsKey := l.allowsKey || !l.isInFlow }
    else { l with cursor := s }

/-- A mark at the beginning of a line that is outside of all blocks. -/
def leave? (l : Layout) : Option Layout := do
  let l ← (l.unindent 0).dropCandidate?
  some { l with allowsKey := false }

def openBracket? (l : Layout) (t : Token) : Option Layout := do
  let l ← l.noteCandidate?
  some { l.take 1 t with candidate := none, outer := l.candidate :: l.outer, allowsKey := true }

def closeBracket? (l : Layout) (t : Token) : Option Layout := do
  let l ← l.dropCandidate?
  let l := l.take 1 t
  some <| match l.outer with
    | [] => { l with allowsKey := false }
    | candidate :: outer => { l with candidate := candidate, outer := outer, allowsKey := false }

def comma? (l : Layout) : Option Layout := do
  let l ← l.dropCandidate?
  some { l.take 1 .comma with allowsKey := true }

/-- The dash before an entry of a list. -/
def dash? (l : Layout) : Option Layout := do
  if !l.isInFlow && !l.allowsKey then none
  let l ← (l.indent l.column 0 .blockList).dropCandidate?
  some { l.take 1 .entry with allowsKey := true }

/-- The question mark before a key. -/
def question? (l : Layout) : Option Layout := do
  if !l.isInFlow && !l.allowsKey then none
  let l ← (l.indent l.column 0 .blockMap).dropCandidate?
  some { l.take 1 .key with allowsKey := !l.isInFlow }

/-- The colon before a value. Now it is clear whether the candidate is a key. -/
def colon? (l : Layout) : Option Layout :=
  match l.candidate with
  | some k =>
    let behind := l.count - k.position
    let l := { l.insert behind .key with candidate := none, allowsKey := false }
    some ((l.indent k.place.column (behind + 1) .blockMap).take 1 .value)
  | none =>
    if !l.isInFlow && !l.allowsKey then none
    else
      let l := l.indent l.column 0 .blockMap
      some { l.take 1 .value with allowsKey := !l.isInFlow }

/-- Characters that may stand right behind the name of an anchor or an alias. -/
def endsLabel (c : Char) : Bool := "?:,]\x7d%@".toList.contains c || c.toNat == 0x60

/-- What an anchor or an alias is called. -/
def label? (l : Layout) (f : String → Token) : Option Layout := do
  let l ← l.noteCandidate?
  let (name, s) := l.cursor.next.span isNameChar
  if !name.isEmpty && (endsWord s.rest || s.meets endsLabel) then
    some { l.takeTo (f (String.ofList name)) s with allowsKey := false }
  else none

def tag? (l : Layout) : Option Layout := do
  let l ← l.noteCandidate?
  let (t, s) ← Tag.scan? l.isInFlow l.cursor
  some { l.takeTo t s with allowsKey := false }

def block? (l : Layout) (isFolded : Bool) : Option Layout := do
  let l ← l.dropCandidate?
  let (text, s) ← Block.scan? isFolded l.margin l.cursor
  some { l.takeTo (.scalar text false) s with allowsKey := true }

def quoted? (l : Layout) (isDouble : Bool) : Option Layout := do
  let l ← l.noteCandidate?
  let (text, s) ← Quoted.scan? isDouble l.cursor
  some { l.takeTo (.scalar text false) s with allowsKey := false }

def plain? (l : Layout) : Option Layout := do
  let l ← l.noteCandidate?
  let r ← Plain.scan? l.surroundings l.cursor
  some { l.takeTo (.scalar r.text true) r.cursor with allowsKey := r.endsLine }

/-- The token that begins with `c` before `cs`. -/
def token? (l : Layout) (c : Char) (cs : List Char) : Option Layout :=
  let isMark := l.isInFlow || endsWord cs
  if l.column == 0 && c == '%' then do
    let l ← l.leave?
    let (t, s) ← Directive.scan? l.cursor
    some (l.takeTo t s)
  else if l.column == 0 && startsMarker (c :: cs) then
    l.leave?.map (·.take 3 (if c == '-' then .documentStart else .documentEnd))
  else if c == '[' then l.openBracket? .openList
  else if c == '\x7b' then l.openBracket? .openMap
  else if c == ']' then l.closeBracket? .closeList
  else if c == '\x7d' then l.closeBracket? .closeMap
  else if c == ',' then l.comma?
  else if c == '-' && endsWord cs then l.dash?
  else if c == '?' && isMark then l.question?
  else if c == ':' && isMark then l.colon?
  else if c == '*' then l.label? .alias
  else if c == '&' then l.label? .anchor
  else if c == '!' then l.tag?
  else if c == '|' && !l.isInFlow then l.block? false
  else if c == '>' && !l.isInFlow then l.block? true
  else if c.toNat == 0x27 then l.quoted? false
  else if c == '"' then l.quoted? true
  else if Plain.starts l.isInFlow c cs then l.plain?
  else none

/-- How many tokens are sure to stay as they are: those before everything that
may still turn out to be a key. -/
def settled (l : Layout) : Nat :=
  (l.candidate :: l.outer).foldl (fun n k =>
    match k with
    | some k => if k.reaches l.cursor.place && k.position < n then k.position else n
    | none => n) l.count

/-- The tokens before a fault that follows. -/
def beforeFault (l : Layout) : List Token := l.tokens.reverse.take l.settled

/-- All tokens from here on. They end at the end of the stream, or before the
first fault. Each token takes a character at least, so the length of the text
bounds their number. -/
def run (fuel : Nat) (l : Layout) : List Token :=
  match fuel with
  | 0 => l.tokens.reverse
  | fuel + 1 =>
    match (l.skipSpace (fuel + 1)).dropStale? with
    | none => l.beforeFault
    | some l' =>
      match l'.cursor.rest with
      | [] =>
        match (l'.unindent 0).dropCandidate? with
        | none => l.beforeFault
        | some l' => (l'.push .streamEnd).tokens.reverse
      | c :: cs =>
        match (l'.unindent (l'.column + 1)).token? c cs with
        | none => l.beforeFault
        | some l' => run fuel l'

end Layout

/-- The tokens of a text without characters that are not allowed. -/
def tokens (cs : List Char) : List Token := Layout.run (cs.length + 1) { cursor := ⟨{}, cs⟩ }

end ClusterAudit.Yaml
