/-
The addresses of servers and proxies: a scheme, an authority with perhaps a
user and a port, and a path, of which either the authority alone, the path
alone, or all together are given. What stands behind a number sign is not part
of an address.
-/
namespace ClusterAudit.Connection

structure Uri where
  scheme : Option String := none
  authority : String := ""
  /-- With the query. -/
  path : String := ""
  deriving DecidableEq

/-- Why a text is no address. -/
inductive UriError where
  | empty
  | tooLong
  | longScheme
  | badCharacter
  | badAuthority
  | badFormat
  deriving DecidableEq

namespace UriError

def message : UriError → String
  | empty => "empty string"
  | tooLong => "uri too long"
  | longScheme => "scheme too long"
  | badCharacter => "invalid uri character"
  | badAuthority => "invalid authority"
  | badFormat => "invalid format"

end UriError

namespace Uri

def maxBytes : Nat := 65534

def maxSchemeLength : Nat := 64

/-! ## Schemes -/

def isSchemeChar (c : Char) : Bool := c.isAlphanum || "+-.~".toList.contains c

/-- Whether `cs` begins with `text`, small or capital. -/
def startsWithAnyCase (text : String) (cs : List Char) : Bool :=
  (cs.take text.length).map Char.toLower == text.toList

/-- The scheme and what follows the two slashes behind it; no scheme if there is
none. -/
def splitScheme (cs : List Char) : Except UriError (Option String × List Char) :=
  if startsWithAnyCase "http://" cs then .ok (some "http", cs.drop 7)
  else if startsWithAnyCase "https://" cs then .ok (some "https", cs.drop 8)
  else
    let scheme := cs.takeWhile isSchemeChar
    let rest := cs.drop scheme.length
    if 3 < cs.length && rest.take 3 == "://".toList then
      if maxSchemeLength < scheme.length then .error .longScheme
      else .ok (some (String.ofList scheme), rest.drop 3)
    else .ok (none, cs)

/-! ## Authorities -/

/-- What has been seen of an authority. Colons and percent signs are counted anew
after the user and after an address in brackets. -/
structure Authority where
  colons : Nat := 0
  isOpened : Bool := false
  isClosed : Bool := false
  hasPercent : Bool := false
  /-- Whether the last character has been an at sign. -/
  endsUser : Bool := false

def endsAuthority (c : Char) : Bool := c == '/' || c == '?' || c == '#'

def isUriChar (c : Char) : Bool := c.isAlphanum || "!$&'()*+,-.;=_~".toList.contains c

/-- An address of the sixth version has eight colons at most. -/
def maxColons : Nat := 8

namespace Authority

def step (a : Authority) (c : Char) : Except UriError Authority :=
  let a := { a with endsUser := false }
  if c == ':' then
    if maxColons ≤ a.colons then .error .badAuthority else .ok { a with colons := a.colons + 1 }
  else if c == '[' then
    if a.hasPercent || a.isOpened then .error .badAuthority else .ok { a with isOpened := true }
  else if c == ']' then
    if !a.isOpened || a.isClosed then .error .badAuthority
    else .ok { a with isClosed := true, colons := 0, hasPercent := false }
  else if c == '@' then .ok { a with endsUser := true, colons := 0, hasPercent := false }
  else if c == '%' then .ok { a with hasPercent := true }
  else if isUriChar c then .ok a
  else .error .badCharacter

/-- Whether all is well at the end. -/
def isComplete (a : Authority) : Bool :=
  a.isOpened == a.isClosed && a.colons ≤ 1 && !a.endsUser && !a.hasPercent

end Authority

/-- The authority at the beginning of `cs`, and the rest. -/
def splitAuthority (cs : List Char) : Except UriError (List Char × List Char) := do
  if cs.isEmpty then throw .empty
  let text := cs.takeWhile (!endsAuthority ·)
  let a ← text.foldlM Authority.step {}
  if a.isComplete then return (text, cs.drop text.length) else throw .badAuthority

/-! ## Paths -/

def isPathChar (c : Char) : Bool :=
  let n := c.toNat
  n == 0x21 || n == 0x22 || (0x24 ≤ n && n ≤ 0x3B) || n == 0x3D || (0x40 ≤ n && n ≤ 0x5F) ||
  (0x61 ≤ n && n ≤ 0x7E) || 0x7F ≤ n

def isQueryChar (c : Char) : Bool :=
  let n := c.toNat
  n == 0x21 || (0x24 ≤ n && n ≤ 0x3B) || n == 0x3D || 0x3F ≤ n

/-- A path with its query, up to a number sign. -/
def readPath (cs : List Char) : Except UriError String :=
  let cs := cs.takeWhile (· != '#')
  let path := cs.takeWhile (· != '?')
  let query := cs.drop (path.length + 1)
  if path.all isPathChar && query.all isQueryChar then .ok (String.ofList cs)
  else .error .badCharacter

/-! ## Addresses -/

/-- The address that a text writes. A single character may be a slash, a star or
an authority. -/
def parse (text : String) : Except UriError Uri := do
  let cs := text.toList
  if maxBytes < text.utf8ByteSize then throw .tooLong
  if cs.isEmpty then throw .empty
  if text == "*" then return { path := "*" }
  if cs.head? == some '/' then return { path := ← readPath cs }
  let (scheme, cs) ← splitScheme cs
  let (authority, rest) ← splitAuthority cs
  match scheme with
  | none =>
    if rest.isEmpty then return { authority := String.ofList authority }
    else throw (if text.length = 1 then .badCharacter else .badFormat)
  | some scheme =>
    if authority.isEmpty then throw .badFormat
    return { scheme := some scheme, authority := String.ofList authority, path := ← readPath rest }

/-- The address as text; behind a scheme there is at least a slash for a path. -/
def text (u : Uri) : String :=
  let slash := if u.scheme.isSome && (u.path.isEmpty || u.path.toList.head? == some '?') then "/" else ""
  ((u.scheme.map (· ++ "://")).getD "") ++ u.authority ++ slash ++ u.path

end Uri

end ClusterAudit.Connection
