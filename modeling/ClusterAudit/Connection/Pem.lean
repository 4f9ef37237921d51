/-
Certificates and keys in armour: base 64 between a line that begins and one
that ends it, each with a label. Text outside of the armour is passed over, and
there may be lines inside of it that say something about the data.
-/
import ClusterAudit.Text.Base64

namespace ClusterAudit.Connection

/-- One armoured piece. -/
structure Pem where
  label : String
  /-- The label of the line at the end. -/
  ending : String
  body : List Char

inductive PemError where
  | noLabel
  | noEnding
  | mismatch (label ending : String)
  | badData (fault : Text.Base64.Fault)
  | badHeader (line : String)
  deriving DecidableEq

namespace PemError

def message : PemError → String
  | noLabel => "missing BEGIN tag"
  | noEnding => "missing END tag"
  | mismatch label ending =>
    "mismatching BEGIN (\"" ++ label ++ "\") and END (\"" ++ ending ++ "\") tags"
  | badData fault => "invalid data: " ++ fault.message
  | badHeader line => "invalid header: " ++ line

end PemError

namespace Pem

/-- Looks on for `mark`, of which the part `missing` is still to come, after the
characters `seen`, the last first. A character that breaks a mark off does not
begin another. -/
def cutFrom (mark seen missing : List Char) : List Char → Option (List Char × List Char)
  | [] => none
  | c :: cs =>
    match missing with
    | [] => none
    | m :: missing =>
      if c != m then cutFrom mark (c :: seen) mark cs
      else if missing.isEmpty then some (((c :: seen).drop mark.length).reverse, cs)
      else cutFrom mark (c :: seen) missing cs

/-- What stands before and after the first `mark`. -/
def cutAt (mark cs : List Char) : Option (List Char × List Char) := cutFrom mark [] mark cs

def rule : List Char := "-----".toList

/-- Characters between the label and the lines behind it. -/
def isGap (c : Char) : Bool := c == ' ' || c == '\t' || c == '\n' || c == '\r'

/-- The first piece, and what follows it. -/
def first? (cs : List Char) : Option (Pem × List Char) := do
  let (_, cs) ← cutAt (rule ++ "BEGIN ".toList) cs
  let (label, cs) ← cutAt rule cs
  let (body, cs) ← cutAt (rule ++ "END ".toList) (cs.dropWhile isGap)
  let (ending, cs) ← cutAt rule cs
  return (⟨String.ofList label, String.ofList ending, body⟩, cs)

/-- All pieces, of which there are no more than `fuel`. -/
def allIn (fuel : Nat) (cs : List Char) : List Pem :=
  match fuel, first? cs with
  | fuel + 1, some (p, rest) => p :: allIn fuel rest
  | _, _ => []

/-- All pieces of a text; each of them has more than one character. -/
def all (cs : List Char) : List Pem := allIn cs.length cs

/-- Blanks that do not count at the end of a line. -/
def isBlank (c : Char) : Bool := c == ' ' || ('\t' ≤ c && c ≤ '\r')

/-- The lines of a text without the blanks at their ends. -/
def linesOf (cs : List Char) : List (List Char) :=
  (cs.splitOnP (· == '\n')).map fun line => (line.reverse.dropWhile isBlank).reverse

/-- The lines before the first empty one, if there is an empty one, and the
rest. -/
def parts (p : Pem) : List Char × List Char :=
  ((cutAt ['\n', '\n'] p.body <|> cutAt ['\r', '\n', '\r', '\n'] p.body).getD ([], p.body))

/-- The data in the armour. -/
def content (p : Pem) : Except PemError (List UInt8) := do
  if p.label.isEmpty then throw .noLabel
  if p.ending.isEmpty then throw .noEnding
  if p.label ≠ p.ending then throw (.mismatch p.label p.ending)
  let (headers, data) := p.parts
  let bytes ← (Text.Base64.decode (linesOf data).flatten).mapError .badData
  match (linesOf headers).find? fun line => !line.isEmpty && !line.contains ':' with
  | some line => throw (.badHeader (String.ofList line))
  | none => return bytes

/-- The certificates of a text. All pieces have to be sound, also those that are
no certificates. -/
def certificates (cs : List Char) : Except PemError (List (List UInt8)) := do
  let pieces ← (all cs).mapM fun p => do return (p.label, ← p.content)
  return pieces.filterMap fun (label, bytes) => if label = "CERTIFICATE" then some bytes else none

end Pem

end ClusterAudit.Connection
