/-
Scalars without quotation marks. They may go on over several lines, as long as
these are indented far enough, and end where something follows that cannot be
part of them.
-/
import ClusterAudit.Yaml.Cursor
import ClusterAudit.Yaml.Scalar.Gap

namespace ClusterAudit.Yaml

/-- What is around a scalar. -/
structure Surroundings where
  /-- Whether it stands in brackets. -/
  isInFlow : Bool
  /-- How many columns the lines of a block are indented at least. -/
  margin : Nat

namespace Plain

/-- A scalar that has been read, and whether it ended at the end of a line. -/
structure Result where
  text : String
  endsLine : Bool
  cursor : Cursor

/-- Whether a scalar can begin with the character `c` before `cs`. -/
def starts (isInFlow : Bool) (c : Char) (cs : List Char) : Bool :=
  !(isSpace c || "-?:,[]\x7b\x7d#&*!|>'\"%@".toList.contains c || c.toNat == 0x60) ||
  (c == '-' && !cs.head?.any isBlank) ||
  (!isInFlow && (c == '?' || c == ':') && !endsWord cs)

/-- Whether a scalar ends before `c`, which is no space. -/
def ends (x : Surroundings) (gap : Gap) (p : Place) (c : Char) (cs : List Char) : Bool :=
  (gap.isBroken && !x.isInFlow && p.column < x.margin) ||
  (p.column == 0 && startsMarker (c :: cs)) ||
  (c == '#' && !gap.isEmpty) ||
  (c == ':' && endsWord cs) ||
  (x.isInFlow && isFlowMark c)

/-- Reads on at `p`, after the characters `text` and the gap `gap`. -/
def scanFrom (x : Surroundings) (text : List Char) (gap : Gap) (p : Place) :
    List Char → Option Result
  | [] => some ⟨String.ofList text.reverse, gap.isBroken, ⟨p, []⟩⟩
  | c :: cs =>
    if isSpace c then
      if c == '\t' && gap.isBroken && p.column < x.margin then none
      else scanFrom x text (gap.push c) (p.after c) cs
    else if ends x gap p c cs then
      some ⟨String.ofList text.reverse, gap.isBroken, ⟨p, c :: cs⟩⟩
    else if x.isInFlow && c == ':' && cs.head?.any fun d => d == '?' || isFlowMark d then none
    else scanFrom x (c :: gap.folded ++ text) .empty (p.after c) cs

def scan? (x : Surroundings) (s : Cursor) : Option Result := scanFrom x [] .empty s.place s.rest

end Plain

end ClusterAudit.Yaml
