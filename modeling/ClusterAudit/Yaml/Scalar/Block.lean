/-
Scalars that are blocks of indented lines: literal ones keep their line
breaks, folded ones turn a single break between two words into a blank. Lines
that begin with a blank beyond the indentation are never folded.
-/
import ClusterAudit.Yaml.Cursor

namespace ClusterAudit.Yaml

namespace Block

/-- What becomes of the line breaks at the end. -/
inductive Chomping where
  | strip
  /-- The first of them is kept. -/
  | clip
  | keep
  deriving DecidableEq

structure Header where
  chomping : Chomping := .clip
  /-- How far the lines are indented beyond the block around them, if it is
  said. -/
  indentation : Option Nat := none

namespace Header

def chomping? : Char → Option Chomping
  | '+' => some .keep
  | '-' => some .strip
  | _ => none

/-- A digit from one to nine; zero is refused. -/
def digit? (cs : List Char) : Option (Option Nat × List Char) :=
  match cs with
  | c :: rest =>
    if c == '0' then none
    else if c.isDigit then some (some (c.toNat - 48), rest)
    else some (none, cs)
  | [] => some (none, [])

/-- The signs behind the mark of the block, in either order, and how many there
are. -/
def scan? (cs : List Char) : Option (Header × Nat) :=
  match cs.head?.bind chomping? with
  | some chomping => do
    let (indentation, rest) ← digit? (cs.drop 1)
    some (⟨chomping, indentation⟩, cs.length - rest.length)
  | none => do
    let (indentation, rest) ← digit? cs
    match indentation, rest.head?.bind chomping? with
    | some n, some chomping => some (⟨chomping, some n⟩, 2)
    | some n, none => some (⟨.clip, some n⟩, 1)
    | none, _ => some ({}, 0)

end Header

/-- A block as far as it has been read. All text is last first. -/
structure Partial where
  text : List Char := []
  /-- The break at the end of the last line with text. -/
  lineBreak : List Char := []
  /-- The breaks of the empty lines after it. -/
  emptyLines : List Char := []
  /-- The column in which the lines begin, once it is known. -/
  column : Option Nat
  /-- The farthest column that has been reached while it was not. -/
  farthest : Nat := 0
  /-- Whether the last line with text begins with a blank. -/
  isIndented : Bool := false
  /-- Whether the text of a line is being read. -/
  isInLine : Bool := false

namespace Partial

/-- Whether a place is still in the indentation. -/
def isBefore (t : Partial) (p : Place) : Bool := t.column.all (p.column < ·)

/-- The column of the lines, now that one with text has come. -/
def settled (t : Partial) (margin : Nat) (p : Place) : Nat :=
  match t.column with
  | some column => column
  | none =>
    let far := if t.farthest < p.column then p.column else t.farthest
    let far := if far < margin then margin else far
    if far = 0 then 1 else far

/-- What the breaks between two lines count for. -/
def joined (isFolded : Bool) (t : Partial) (isIndented : Bool) : List Char :=
  if isFolded && t.lineBreak == ['\n'] && !t.isIndented && !isIndented then
    (if t.emptyLines.isEmpty then [' '] else t.emptyLines) ++ t.text
  else t.emptyLines ++ t.lineBreak ++ t.text

/-- The text in the end. -/
def finish (t : Partial) (chomping : Chomping) : String :=
  String.ofList <| List.reverse <| match chomping with
    | .strip => t.text
    | .clip => t.lineBreak ++ t.text
    | .keep => t.emptyLines ++ t.lineBreak ++ t.text

end Partial

/-- Reads on at `p`. The block ends before the first line with text that begins
in another column. -/
def scanFrom (isFolded : Bool) (margin : Nat) (t : Partial) (p : Place) :
    List Char → Option (Partial × Cursor)
  | [] => some (t, ⟨p, []⟩)
  | c :: cs =>
    if t.isInLine then
      if isBreak c then
        scanFrom isFolded margin { t with lineBreak := [c], isInLine := false } (p.after c) cs
      else scanFrom isFolded margin { t with text := c :: t.text } (p.after c) cs
    else if c == ' ' && t.isBefore p then scanFrom isFolded margin t (p.after c) cs
    else if c == '\t' && t.isBefore p then none
    else if isBreak c then
      scanFrom isFolded margin
        { t with
          emptyLines := c :: t.emptyLines
          farthest := if t.farthest < p.column then p.column else t.farthest }
        (p.after c) cs
    else
      let column := t.settled margin p
      if p.column = column then
        scanFrom isFolded margin
          { text := c :: t.joined isFolded (isBlank c)
            column := some column
            isIndented := isBlank c
            isInLine := true }
          (p.after c) cs
      else some (t, ⟨p, c :: cs⟩)

/-- The block behind the mark at which `s` stands. -/
def scan? (isFolded : Bool) (margin : Nat) (s : Cursor) : Option (String × Cursor) := do
  let (header, n) ← Header.scan? s.next.rest
  let start ← (s.next.drop n).endOfLine?
  let column := header.indentation.map fun n => margin - 1 + n
  let (t, s) ← scanFrom isFolded margin { column := column } start.place start.rest
  some (t.finish header.chomping, s)

end Block

end ClusterAudit.Yaml
