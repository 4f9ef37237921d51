/-
The characters of YAML and their classes. A text is read after its line breaks
have been made alike: what ends a line is then one character, either a line
feed or one of the two separators of Unicode, which stay what they are.
-/
namespace ClusterAudit.Yaml

/-- Characters that a text may hold. -/
def isAllowed (c : Char) : Bool :=
  c == '\t' || c == '\n' || c == '\r' || (0x20 ≤ c.toNat && c.toNat ≤ 0x7E) || c.toNat == 0x85 ||
  (0xA0 ≤ c.toNat && c.toNat ≤ 0xFFFD) || 0x10000 ≤ c.toNat

/-- The text with a line feed for each carriage return, next line, or carriage
return and line feed together. -/
def unifyBreaks : List Char → List Char
  | [] => []
  | '\r' :: '\n' :: cs => '\n' :: unifyBreaks cs
  | c :: cs => (if c == '\r' || c.toNat == 0x85 then '\n' else c) :: unifyBreaks cs

/-- The characters to read; there are none if one of them is not allowed. -/
def characters? (text : String) : Option (List Char) :=
  if text.toList.all isAllowed then some (unifyBreaks text.toList) else none

def isBreak (c : Char) : Bool := c == '\n' || c.toNat == 0x2028 || c.toNat == 0x2029

def isBlank (c : Char) : Bool := c == ' ' || c == '\t'

def isSpace (c : Char) : Bool := isBlank c || isBreak c

/-- Whether a word ends before `cs`: at a space or at the end of the text. -/
def endsWord (cs : List Char) : Bool := cs.head?.all isSpace

/-- Characters of names. -/
def isNameChar (c : Char) : Bool := c.isAlphanum || c == '_' || c == '-'

/-- Characters of tags, but for the escapes. Inside of angle brackets there are
three more. -/
def isTagChar (isBracketed : Bool) (c : Char) : Bool :=
  isNameChar c || ";/?:@&=+$.!~*'()".toList.contains c || (isBracketed && ",[]".toList.contains c)

/-- Brackets and commas, by which collections on one line are built. -/
def isFlowMark (c : Char) : Bool := ",[]\x7b\x7d".toList.contains c

/-- Whether a mark begins here that starts or ends a document, if the line
begins here too. -/
def startsMarker (cs : List Char) : Bool :=
  (cs.take 3 == ['-', '-', '-'] || cs.take 3 == ['.', '.', '.']) && endsWord (cs.drop 3)

end ClusterAudit.Yaml
