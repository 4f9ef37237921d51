/-
Places in a text: how many characters and lines stand before them, and in
which column they are.
-/
import ClusterAudit.Yaml.Character

namespace ClusterAudit.Yaml

structure Place where
  index : Nat := 0
  line : Nat := 0
  column : Nat := 0
  deriving DecidableEq

namespace Place

/-- The place after a character. -/
def after (p : Place) (c : Char) : Place :=
  if isBreak c then ⟨p.index + 1, p.line + 1, 0⟩ else ⟨p.index + 1, p.line, p.column + 1⟩

end Place

/-- A place, and the text from there on. -/
structure Cursor where
  place : Place := {}
  rest : List Char

namespace Cursor

/-- The cursor behind the next character. -/
def next (s : Cursor) : Cursor :=
  match s.rest with
  | [] => s
  | c :: cs => ⟨s.place.after c, cs⟩

/-- The cursor behind the next `n` characters. -/
def drop : Nat → Cursor → Cursor
  | 0, s => s
  | n + 1, s => drop n s.next

/-- The characters from here on that satisfy `p`, and the cursor behind them. -/
def span (p : Char → Bool) (s : Cursor) : List Char × Cursor :=
  (s.rest.takeWhile p, s.drop (s.rest.takeWhile p).length)

def dropWhile (p : Char → Bool) (s : Cursor) : Cursor := (s.span p).2

/-- Whether the next character satisfies `p`. -/
def meets (p : Char → Bool) (s : Cursor) : Bool := s.rest.head?.any p

/-- The end of the line, behind blanks and a comment; nothing else may stand
there. -/
def endOfLine? (s : Cursor) : Option Cursor :=
  let s := s.dropWhile isBlank
  let s := if s.meets (· == '#') then s.dropWhile (!isBreak ·) else s
  if s.rest.head?.all isBreak then some s.next else none

end Cursor

end ClusterAudit.Yaml
