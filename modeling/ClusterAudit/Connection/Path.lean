/-
Paths of files: the directories they are in, paths relative to these, and why
there is nothing to read at the end of one.
-/
import ClusterAudit.Text.Cut

namespace ClusterAudit.Connection

/-- Why a file cannot be read. -/
inductive FileError where
  | missing
  | isDirectory
  | tooLong
  | holdsNull
  deriving DecidableEq

namespace FileError

def message : FileError → String
  | missing => "No such file or directory (os error 2)"
  | isDirectory => "Is a directory (os error 21)"
  | tooLong => "File name too long (os error 36)"
  | holdsNull => "file name contained an unexpected NUL byte"

end FileError

namespace Path

/-- The directory that a file is in. -/
def directory (path : String) : String :=
  match Text.cutLast '/' path.toList with
  | some ([], _) => "/"
  | some (cs, _) => String.ofList cs
  | none => ""

/-- A path that is given relative to a directory. -/
def under (dir path : String) : String :=
  if dir.isEmpty || path.toList.head? == some '/' then path
  else if dir.toList.getLast? == some '/' then dir ++ path
  else dir ++ "/" ++ path

def maxBytes : Nat := 4095

/-- The most bytes of a name between two slashes. -/
def maxNameBytes : Nat := 255

/-- The names on a path, without the steps that stay or go up. -/
def names (path : String) : List String :=
  (Text.pieces '/' path).filter fun name => name != "" && name != "." && name != ".."

/-- Why a file that is not there cannot be read. The first name on its path
already leads nowhere; a path without a name leads to a directory. -/
def absence (path : String) : FileError :=
  if path.toList.contains '\x00' then .holdsNull
  else if maxBytes < path.utf8ByteSize then .tooLong
  else
    match (names path).head? with
    | some name => if maxNameBytes < name.utf8ByteSize then .tooLong else .missing
    | none => if path.isEmpty then .missing else .isDirectory

end Path

end ClusterAudit.Connection
