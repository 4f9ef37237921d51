/-
References to container images: `domain/path:tag@digest`, of which only the
path has to be there.
-/
import ClusterAudit.Text.Cut
import ClusterAudit.Text.Uppercase

namespace ClusterAudit

structure Image where
  domain : Option String
  path : String
  tag : Option String
  digest : Option String
  deriving DecidableEq

namespace Image

/-- The part before the first `@`, and the digest after it. -/
def splitDigest (cs : List Char) : List Char × Option (List Char) :=
  match Text.cutFirst '@' cs with
  | some (rest, digest) => (rest, some digest)
  | none => (cs, none)

/-- The part before the last colon, and the tag after it. A colon that a slash
follows belongs to the domain. -/
def splitTag (cs : List Char) : List Char × Option (List Char) :=
  match Text.cutLast ':' cs with
  | some (rest, tag) => if tag.contains '/' then (cs, none) else (rest, some tag)
  | none => (cs, none)

/-- Whether the first segment of a path is the name of a host. -/
def namesHost (segment : List Char) : Bool :=
  segment.contains '.' || segment.contains ':' || segment == "localhost".toList

/-- The domain before the first slash, if what stands there is one, and the
path. -/
def splitDomain (cs : List Char) : Option (List Char) × List Char :=
  match Text.cutFirst '/' cs with
  | some (first, path) => if namesHost first then (some first, path) else (none, cs)
  | none => (none, cs)

def parse (s : String) : Image :=
  let (rest, digest) := splitDigest s.toList
  let (rest, tag) := splitTag rest
  let (domain, path) := splitDomain rest
  { domain := domain.map String.ofList
    path := String.ofList path
    tag := tag.map String.ofList
    digest := digest.map String.ofList }

/-- The reference as it is written. -/
def text (i : Image) : String :=
  (match i.domain with
    | some d => d ++ "/"
    | none => "") ++ i.path ++
  (match i.tag with
    | some t => ":" ++ t
    | none => "") ++
  (match i.digest with
    | some d => "@" ++ d
    | none => "")

/-- A path in small letters; there has to be one. -/
def isLowercase (path : String) : Bool :=
  !path.isEmpty && !path.toList.any Text.isUppercase

/-- Whether the reference names its registry and is already in the form that
registry uses. Images of the default registry need their full path. -/
def isFullyQualified (i : Image) : Bool :=
  match i.domain with
  | none => false
  | some d =>
    if d = "index.docker.io" then false
    else if d = "docker.io" then i.path.toList.contains '/' && isLowercase i.path
    else isLowercase i.path

/-- Whether the reference means the tag `latest`, as it does if it says
nothing. -/
def isLatest (i : Image) : Bool :=
  match i.tag with
  | some t => t == "latest"
  | none => i.digest.isNone

end Image

end ClusterAudit
