import JavadocAudit.Text.Line

/-!
# Paths of files

A path is a list of names, possibly from the root of the file system on. Repeated slashes and names
that stand for the same directory are left out, and names that lead upwards are kept, so a path is
shown in one form however it is written.
-/

namespace JavadocAudit

structure Path where
  /-- The slashes at the start of an absolute path. -/
  root : String
  parts : List String
  deriving DecidableEq, Repr

namespace Path

/-- The slashes that an absolute path starts with: two of them mean another root than one or more
than two. -/
def rootOf : List Char → String
  | '/' :: '/' :: '/' :: _ => "/"
  | '/' :: '/' :: _ => "//"
  | '/' :: _ => "/"
  | _ => ""

def ofString (s : String) : Path :=
  let parts := (Text.cutAt '/' s.toList).map String.ofList
  ⟨rootOf s.toList, parts.filter fun part => part ≠ "" && part ≠ "."⟩

/-- The path as a text; the empty path is the current directory. -/
def toString (path : Path) : String :=
  if path.root = "" && path.parts.isEmpty then "."
  else path.root ++ String.intercalate "/" path.parts

/-- There is a null character in the path, so that no file can have it. -/
def hasNull (path : Path) : Bool := path.parts.any (·.toList.contains '\x00')

/-- The path of something below a directory. -/
def append (path : Path) (parts : List String) : Path := { path with parts := path.parts ++ parts }

end Path

end JavadocAudit
