/-
Names under which a server may show itself: the name of a host, or an address
of the fourth or the sixth version.
-/
import ClusterAudit.Text.Cut
import ClusterAudit.Text.Numeral

namespace ClusterAudit.Connection.ServerName

def maxLabel : Nat := 63

def maxName : Nat := 253

def isLabelChar (c : Char) : Bool := c.isAlphanum || c == '_' || c == '-'

/-- A part of a name between its points. It begins and ends with no hyphen. -/
def isLabel (s : String) : Bool :=
  s.toList.all isLabelChar && !s.isEmpty && s.length ≤ maxLabel &&
    s.toList.head? != some '-' && s.toList.getLast? != some '-'

/-- A point may stand at the end. The last part is no number. -/
def isHost (s : String) : Bool :=
  let labels := Text.pieces '.' s
  let isRooted := labels.getLast? == some "" && 1 < labels.length
  let labels := if isRooted then labels.dropLast else labels
  s.utf8ByteSize ≤ maxName && labels.all isLabel &&
    !(labels.getLast?.any fun l => l.toList.all Char.isDigit)

/-- A number up to 255 in base ten. -/
def isOctet (s : String) : Bool :=
  !s.isEmpty && s.length ≤ 3 && s.toList.all Char.isDigit &&
    (s.length = 1 || s.toList.head? != some '0') &&
    ((Text.digitsValue 0 s.toList).any (· ≤ 255))

def isVersion4 (s : String) : Bool :=
  let octets := Text.pieces '.' s
  octets.length == 4 && octets.all isOctet

/-- How many groups of sixteen bits there are, the last of which may be an
address of the fourth version. -/
def groups? (mayEndInVersion4 : Bool) : List String → Option Nat
  | [] => some 0
  | [s] =>
    if mayEndInVersion4 && isVersion4 s then some 2
    else if isGroup s then some 1
    else none
  | s :: rest => if isGroup s then (groups? mayEndInVersion4 rest).map (· + 1) else none
where
  isGroup (s : String) : Bool :=
    !s.isEmpty && s.length ≤ 4 && s.toList.all fun c => (Text.hexDigit? c).isSome

/-- The groups of a part of an address; an empty part has none. -/
def groupsOf? (mayEndInVersion4 : Bool) (cs : List Char) : Option Nat :=
  if cs.isEmpty then some 0
  else groups? mayEndInVersion4 (Text.pieces ':' (String.ofList cs))

/-- What stands before and after the first two colons in a row. -/
def cutGap : List Char → Option (List Char × List Char)
  | ':' :: ':' :: cs => some ([], cs)
  | c :: cs => (cutGap cs).map fun (a, b) => (c :: a, b)
  | [] => none

/-- Eight groups, or fewer with a gap that stands for the zeros in between. -/
def isVersion6 (s : String) : Bool :=
  match cutGap s.toList with
  | some (before, after) =>
    match groupsOf? false before, groupsOf? true after with
    | some m, some n => m + n < 8
    | _, _ => false
  | none => groupsOf? true s.toList == some 8

def isValid (s : String) : Bool := isHost s || isVersion4 s || isVersion6 s

end ClusterAudit.Connection.ServerName
